import SnippetBench.Proofs.Script.Layout
import SnippetBench.Proofs.Text.Trim

/-!
# Future imports over several lines

The names of a future import may stand in parentheses on lines of their own. Only the line with which
the import begins is lifted, so such an import is torn apart: its first line stands at the top of the
script and all others stay at the place of the content (`build_futureStatement`). An import on one line
is lifted as a whole.
-/

namespace SnippetBench.Script

open Document (Item)
open Text (Cut)

/-- A line without its comment. In a future import, which holds no string, a comment begins at the
first `#`. -/
def uncommented (l : Text) : Text := l.takeWhile (· ≠ '#')

/-- In `FutureStatement lines` the lines are those of one future import. -/
inductive FutureStatement : List Text → Prop
  /-- It stands on one line that closes what it opens and is not continued. -/
  | single {l : Text} (hstart : isFuture l = true)
      (hclosed : '(' ∈ uncommented l → ')' ∈ uncommented l) (hends : '\\' ∉ uncommented l) :
      FutureStatement [l]
  /-- It stands in parentheses, from the line that opens them to the first that closes them. -/
  | spread {first last : Text} {inner : List Text} (hstart : isFuture first = true)
      (hopen : '(' ∈ uncommented first ∧ ')' ∉ uncommented first)
      (hinner : ∀ l ∈ inner, isFuture l = false ∧ ')' ∉ uncommented l)
      (hlast : isFuture last = false) (hclose : ')' ∈ uncommented last) :
      FutureStatement (first :: (inner ++ [last]))

variable {settings : Settings} {before after : List Item} {p q statement : List Text}

/-! ### What is lifted -/

/-- A future import begins with the only line of it that is lifted. If it has further lines, they close
a parenthesis. -/
theorem FutureStatement.exists_first (h : FutureStatement statement) :
    ∃ first rest, statement = first :: rest ∧ isFuture first = true ∧
      (∀ l ∈ rest, isFuture l = false) ∧ (rest ≠ [] → ')' ∈ rest.flatten) := by
  cases h with
  | @single l hstart => exact ⟨l, [], rfl, hstart, by simp, fun h => absurd rfl h⟩
  | @spread first last inner hstart _ hinner hlast hclose =>
    refine ⟨first, inner ++ [last], rfl, hstart, fun l hl => ?_, fun _ => ?_⟩
    · rcases List.mem_append.mp hl with hl | hl
      · exact (hinner l hl).1
      · rwa [List.mem_singleton.mp hl]
    · exact List.mem_flatten.mpr ⟨last, by simp, (List.takeWhile_prefix _).subset hclose⟩

section

variable {first : Text} {rest : List Text}

theorem filter_isFuture_around (hp : ∀ l ∈ p, isFuture l = false) (hq : ∀ l ∈ q, isFuture l = false)
    (hfirst : isFuture first = true) (hrest : ∀ l ∈ rest, isFuture l = false) :
    (p ++ first :: rest ++ q).filter isFuture = [first] ∧
      ((p ++ first :: rest ++ q).filter fun l => !isFuture l) = p ++ rest ++ q := by
  have hnone : ∀ ls : List Text, (∀ l ∈ ls, isFuture l = false) →
      ls.filter isFuture = [] ∧ (ls.filter fun l => !isFuture l) = ls := fun ls hls =>
    ⟨List.filter_eq_nil_iff.mpr fun l hl => by simp [hls l hl],
      List.filter_eq_self.mpr fun l hl => by simp [hls l hl]⟩
  simp [List.filter_append, hfirst, hnone p hp, hnone q hq, hnone rest hrest]

theorem lift_around (hcut : Cut (p ++ first :: rest ++ q)) (hp : ∀ l ∈ p, isFuture l = false)
    (hq : ∀ l ∈ q, isFuture l = false) (hfirst : isFuture first = true)
    (hrest : ∀ l ∈ rest, isFuture l = false) :
    Futures.ofItem (.content (p ++ first :: rest ++ q).flatten) = [Text.strip first] ∧
      Futures.strip (.content (p ++ first :: rest ++ q).flatten) =
        .content (p ++ rest ++ q).flatten := by
  obtain ⟨hlifted, hleft⟩ := filter_isFuture_around hp hq hfirst hrest
  rw [Futures.ofItem, futureLines, Futures.strip, withoutFutures, hcut.newlineLines_flatten, hlifted,
    hleft]
  exact ⟨rfl, rfl⟩

/-- Further lines of a future import hold a parenthesis. -/
theorem eq_nil_of_count (hclose : rest ≠ [] → ')' ∈ rest.flatten)
    (h : rest.flatten.count ')' = 0) : rest = [] := by
  by_contra hne
  exact List.count_eq_zero.mp h (hclose hne)

theorem strip_first_eq_iff (hclose : rest ≠ [] → ')' ∈ rest.flatten) :
    Text.strip first = Text.strip (first :: rest).flatten ↔ rest = [] := by
  constructor
  · intro h
    have hcount := congrArg (List.count ')') h
    rw [Text.strip, Text.strip, Text.count_trim (by decide), Text.count_trim (by decide),
      List.flatten_cons, List.count_append] at hcount
    exact eq_nil_of_count hclose (by omega)
  · rintro rfl
    rw [List.flatten_singleton]

theorem ended_around_eq_iff (hclose : rest ≠ [] → ')' ∈ rest.flatten) :
    ended (p ++ rest ++ q).flatten = ended (p ++ q).flatten ↔ rest = [] := by
  constructor
  · intro h
    have hcount := congrArg (List.count ')') h
    rw [ended, ended, Text.count_trimEnd (by decide), Text.count_trimEnd (by decide)] at hcount
    simp only [List.flatten_append, List.count_append] at hcount
    exact eq_nil_of_count hclose (by omega)
  · rintro rfl
    rw [List.append_nil]

end

/-! ### The script -/

/-- The script of items around a content from which one text is moved to the top and another is left
at its place. -/
def scriptAround (settings : Settings) (before after : List Item) (moved left : Text) : Text :=
  Text.join ['\n', '\n']
    (ended (heading settings.samples settings.iterations settings.source settings.digest)
      :: Text.join ['\n'] (lifted before ++ moved :: lifted after)
      :: ended support :: (if settings.markdown then ["_PYBM_MARKDOWN = True"] else [])
      ++ (before.map (placed settings) ++ left :: after.map (placed settings))) ++ ['\n']

theorem build_eq_scriptAround (hs : 1 ≤ settings.samples) (hi : 1 ≤ settings.iterations)
    (before after : List Item) {text moved left : Text}
    (hmoved : Futures.ofItem (.content text) = [moved])
    (hleft : Futures.strip (.content text) = .content left) :
    build settings (before ++ .content text :: after) =
      .ok (scriptAround settings before after moved (ended left)) := by
  have hlifted : lifted (before ++ .content text :: after) =
      lifted before ++ moved :: lifted after := by
    rw [lifted, List.flatMap_append, List.flatMap_cons, hmoved]
    rfl
  have hplaced : placed settings (.content text) = ended left := by
    rw [placed, hleft, part]
  rw [build_eq hs hi, front, hlifted, if_neg (by simp), List.map_append, List.map_cons, hplaced]
  rfl

/-- Of a future import in a content the first line moves to the top of the script, and all its other
lines stay between the lines before it and those behind it. So it moves as a whole, and only what stands
around it is left, exactly if it stands on one line. -/
theorem build_futureStatement (hs : 1 ≤ settings.samples) (hi : 1 ≤ settings.iterations)
    (before after : List Item) (hcut : Cut (p ++ statement ++ q))
    (hp : ∀ l ∈ p, isFuture l = false) (hq : ∀ l ∈ q, isFuture l = false)
    (h : FutureStatement statement) :
    ∃ first rest, statement = first :: rest ∧
      build settings (before ++ .content (p ++ statement ++ q).flatten :: after) =
        .ok (scriptAround settings before after (Text.strip first) (ended (p ++ rest ++ q).flatten)) ∧
      (Text.strip first = Text.strip statement.flatten ↔ rest = []) ∧
      (ended (p ++ rest ++ q).flatten = ended (p ++ q).flatten ↔ rest = []) := by
  obtain ⟨first, rest, rfl, hfirst, hrest, hclose⟩ := h.exists_first
  obtain ⟨hmoved, hleft⟩ := lift_around hcut hp hq hfirst hrest
  exact ⟨first, rest, rfl, build_eq_scriptAround hs hi before after hmoved hleft,
    strip_first_eq_iff hclose, ended_around_eq_iff hclose⟩

/-- An import over three lines and the line behind it. -/
theorem build_futureStatement_spread :
    ∃ first rest, ["from __future__ import (\n".toList, "    annotations,\n", ")\n"] = first :: rest ∧
      build ⟨1, 1, none, none, false⟩
          [.content "from __future__ import (\n    annotations,\n)\nx = 1"] =
        .ok (scriptAround ⟨1, 1, none, none, false⟩ [] [] (Text.strip first)
          (ended (rest ++ ["x = 1".toList]).flatten)) ∧
      (Text.strip first = "from __future__ import (\n    annotations,\n)".toList ↔ rest = []) ∧
      (ended (rest ++ ["x = 1".toList]).flatten = "x = 1".toList ↔ rest = []) :=
  build_futureStatement (p := []) (q := ["x = 1"]) (by decide) (by decide) [] []
    (.cons ⟨"from __future__ import (", by decide, rfl⟩ (.cons ⟨"    annotations,", by decide, rfl⟩
      (.cons ⟨")", by decide, rfl⟩ (.last (by decide) (by decide)))))
    (by simp) (by decide)
    (@FutureStatement.spread _ _ ["    annotations,\n"] (by decide) (by decide) (by decide) (by decide)
      (by decide))

/-- An import over three lines is not moved as a whole. -/
theorem build_spread_ne :
    FutureStatement ["from __future__ import (\n", "    annotations,\n", ")\n"] ∧
      build ⟨1, 1, none, none, false⟩
          [.content "from __future__ import (\n    annotations,\n)\nx = 1"] ≠
        .ok (scriptAround ⟨1, 1, none, none, false⟩ [] []
          "from __future__ import (\n    annotations,\n)" "x = 1") :=
  ⟨@FutureStatement.spread _ _ ["    annotations,\n"] (by decide) (by decide) (by decide) (by decide)
    (by decide), by decide +kernel⟩

end SnippetBench.Script
