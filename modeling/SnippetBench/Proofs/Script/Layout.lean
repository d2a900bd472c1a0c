import SnippetBench.Script.Build
import SnippetBench.Proofs.Except
import SnippetBench.Proofs.Text.Join
import SnippetBench.Proofs.Text.Lines
import SnippetBench.Proofs.Text.Trim
import Mathlib.Data.List.Forall2

/-!
# The layout of a script

A script is its front and one part for every item, in order, with an empty line between every two of
them. Joining removes the line ends at the end of every part. That loses nothing of a content that
keeps all its lines, since the texts of a parsed document are trimmed (`getLast?_of_ofText`), and it
takes from a block only its last line end (`exists_block_eq`). So the part of an item is known from
the item alone (`PartOf`), and exchanging a snippet exchanges its block and nothing else
(`build_of_ofText`).
-/

namespace SnippetBench.Script

open Document (Item Snippet Token)

/-! ### Trimmed contents -/

theorem isBlank_newline : Text.isBlank '\n' = true := by decide

theorem getLast?_strip_ne_newline (t : Text) : (Text.strip t).getLast? ≠ some '\n' := by
  intro h
  have := Text.getLast?_trimEnd h
  rw [isBlank_newline] at this
  cases this

/-- Every content that is folded from tokens is trimmed. -/
theorem exists_strip_of_mem_foldFrom {tokens : List Token} {active : Option Snippet} {text : Text}
    (h : .content text ∈ Item.foldFrom active tokens) : ∃ t, text = Text.strip t := by
  have hactive : Item.content text ∉ (active.map Item.snippet).toList := by
    cases active <;> simp
  induction tokens generalizing active with
  | nil => exact absurd h hactive
  | cons token tokens ih =>
    cases token with
    | declaration name line =>
      rw [Item.foldFrom, List.mem_append] at h
      replace h := h.resolve_left hactive
      split at h
      · rcases List.mem_cons.mp h with heq | h
        · cases heq
          exact ⟨[], rfl⟩
        · exact ih h (by simp)
      · exact ih h (by simp)
    | content t line =>
      cases active with
      | some s => exact ih h (by simp)
      | none =>
        rcases List.mem_cons.mp h with heq | h
        · cases heq
          exact ⟨t, rfl⟩
        · exact ih h (by simp)

/-! ### Parts -/

/-- The text without the line ends at its end. -/
def ended (t : Text) : Text := Text.trimEnd (· = '\n') t

theorem ended_eq_self {t : Text} (h : t.getLast? ≠ some '\n') : ended t = t := by
  refine Text.trimEnd_eq_self fun c hc => ?_
  have : c ≠ '\n' := fun e => h (e ▸ hc)
  simpa using this

theorem getLast?_ended (t : Text) : (ended t).getLast? ≠ some '\n' := by
  intro h
  have := Text.getLast?_trimEnd h
  simp at this

/-- The lines that the items give to the top of the script, in order. -/
def lifted (items : List Item) : List Text := items.flatMap Futures.ofItem

/-- The parts before those of the items: the heading, the lifted lines, the supporting part and the
switch for markdown reports. -/
def front (settings : Settings) (items : List Item) : List Text :=
  ended (heading settings.samples settings.iterations settings.source settings.digest)
    :: (if lifted items = [] then [] else [Text.join ['\n'] (lifted items)])
    ++ ended support :: (if settings.markdown then ["_PYBM_MARKDOWN = True"] else [])

/-- In `PartOf settings item part` the text is the part of the item in a script. -/
inductive PartOf (settings : Settings) : Item → Text → Prop
  /-- A content that keeps all its lines stands as it is. -/
  | content {text : Text} (keeps : ∀ l ∈ Text.newlineLines text, isFuture l = false) :
      PartOf settings (.content text) text
  /-- A content from which lines are lifted stands without them. -/
  | lifted {text l : Text} (hmem : l ∈ Text.newlineLines text) (hl : isFuture l = true) :
      PartOf settings (.content text) (ended (withoutFutures text))
  /-- A snippet stands as its block without the last line end. -/
  | snippet {s : Snippet} {part : Text}
      (hwrap : wrap s settings.samples settings.iterations = .ok (part ++ ['\n'])) :
      PartOf settings (.snippet s) part

/-- A content without lines to lift keeps all of its text. -/
theorem withoutFutures_eq_self {text : Text}
    (keeps : ∀ l ∈ Text.newlineLines text, isFuture l = false) : withoutFutures text = text := by
  have hall : ∀ l ∈ Text.newlineLines text, (!isFuture l) = true := fun l hl => by
    rw [keeps l hl]
    rfl
  rw [withoutFutures, List.filter_eq_self.mpr hall, Text.flatten_newlineLines]

/-- A block ends in exactly one line end. -/
theorem exists_block_eq (s : Snippet) (samples iterations : Int) :
    ∃ b, block s samples iterations = b ++ ['\n'] ∧ b.getLast? = some ')' := by
  have hend : (", _pybm_error)\n" : Text) = ", _pybm_error)".toList ++ ['\n'] := rfl
  unfold block
  rw [hend, ← List.append_assoc]
  exact ⟨_, rfl, by rw [List.getLast?_append_of_ne_nil _ (by decide)]; rfl⟩

theorem wrap_eq {samples iterations : Int} (hs : 1 ≤ samples) (hi : 1 ≤ iterations) (s : Snippet) :
    wrap s samples iterations = .ok (block s samples iterations) := by
  rw [wrap, checkCounts, if_neg (by omega), if_neg (by omega)]
  rfl

/-- The part of an item as it stands in a script. -/
def placed (settings : Settings) (item : Item) : Text := ended (part settings (Futures.strip item))

/-- What stands in a script is the part of the item, if the text of a content does not end in a line
end. -/
theorem partOf_placed {settings : Settings} (hs : 1 ≤ settings.samples) (hi : 1 ≤ settings.iterations)
    {item : Item} (hitem : ∀ text, item = .content text → text.getLast? ≠ some '\n') :
    PartOf settings item (placed settings item) := by
  cases item with
  | content text =>
    by_cases keeps : ∀ l ∈ Text.newlineLines text, isFuture l = false
    · rw [placed, Futures.strip, withoutFutures_eq_self keeps, part, ended_eq_self (hitem text rfl)]
      exact .content keeps
    · push Not at keeps
      obtain ⟨l, hmem, hl⟩ := keeps
      exact .lifted hmem (by simpa using hl)
  | snippet s =>
    obtain ⟨b, hb, hlast⟩ := exists_block_eq s settings.samples settings.iterations
    have hended : placed settings (.snippet s) = b := by
      rw [placed, Futures.strip, part, hb, ended, Text.trimEnd_append_of_all (by simp)]
      exact ended_eq_self (by simp [hlast])
    rw [hended]
    exact .snippet (by rw [wrap_eq hs hi, hb])

/-! ### The front -/

/-- A lifted line is not empty and has no line end. -/
theorem ended_of_mem_lifted {items : List Item} {l : Text} (h : l ∈ lifted items) :
    l ≠ [] ∧ l.getLast? ≠ some '\n' := by
  obtain ⟨item, -, h⟩ := List.mem_flatMap.mp h
  cases item with
  | snippet s => cases h
  | content text =>
    obtain ⟨line, hline, rfl⟩ := List.mem_map.mp h
    have hstart : futureStart <+: line := List.isPrefixOf_iff_prefix.mp (List.mem_filter.mp hline).2
    have hmem : 'f' ∈ line := hstart.subset (by decide)
    exact ⟨Text.trim_ne_nil hmem (by decide), getLast?_strip_ne_newline line⟩

theorem getLast?_join_lifted (items : List Item) :
    (Text.join ['\n'] (lifted items)).getLast? ≠ some '\n' := by
  rcases List.eq_nil_or_concat' (lifted items) with h | ⟨before, l, h⟩
  · rw [h]
    simp [Text.join]
  · have hmem : l ∈ lifted items := by simp [h]
    obtain ⟨hne, hlast⟩ := ended_of_mem_lifted hmem
    rw [h, Text.getLast?_join hne]
    exact hlast

theorem map_ended_frontParts (settings : Settings) (items : List Item) :
    (frontParts settings (lifted items)).map ended = front settings items := by
  have hlifted : (if (lifted items).isEmpty then [] else [Text.join ['\n'] (lifted items)]).map ended =
      if lifted items = [] then [] else [Text.join ['\n'] (lifted items)] := by
    by_cases h : lifted items = []
    · rw [if_pos (List.isEmpty_iff.mpr h), if_pos h, List.map_nil]
    · rw [if_neg (by simpa using h), if_neg h, List.map_singleton,
        ended_eq_self (getLast?_join_lifted items)]
  have hswitch : ∀ markdown : Bool,
      (if markdown then [("_PYBM_MARKDOWN = True" : Text)] else []).map ended =
        if markdown then [("_PYBM_MARKDOWN = True" : Text)] else [] := by decide
  rw [frontParts, List.map_append, List.map_cons, List.map_cons, hlifted, hswitch, front]

/-- Exchanging a snippet leaves the front as it is. -/
theorem front_snippet (settings : Settings) (before after : List Item) (s : Snippet) :
    front settings (before ++ .snippet s :: after) = front settings (before ++ after) := by
  have h : lifted (before ++ .snippet s :: after) = lifted (before ++ after) := by
    simp [lifted, Futures.ofItem]
  unfold front
  rw [h]

/-! ### The script -/

/-- A script is its front and the parts of its items, joined. -/
theorem build_eq {settings : Settings} (hs : 1 ≤ settings.samples) (hi : 1 ≤ settings.iterations)
    (items : List Item) : build settings items =
      .ok (Text.join ['\n', '\n'] (front settings items ++ items.map (placed settings)) ++ ['\n']) := by
  have hparts : (frontParts settings (lifted items) ++
      (items.map Futures.strip).map (part settings)).map ended =
        front settings items ++ items.map (placed settings) := by
    rw [List.map_append, map_ended_frontParts, List.map_map, List.map_map]
    rfl
  rw [build, checkCounts, if_neg (by omega), if_neg (by omega), ← hparts]
  rfl

/-- The texts of a document's contents do not end in a line end. -/
theorem getLast?_of_ofText {document : Text} {items : List Item}
    (h : Item.ofText document = .ok items) {text : Text} (hmem : .content text ∈ items) :
    text.getLast? ≠ some '\n' := by
  obtain ⟨tokens, -, rfl⟩ := map_eq_ok_iff.mp h
  obtain ⟨t, rfl⟩ := exists_strip_of_mem_foldFrom hmem
  exact getLast?_strip_ne_newline t

theorem getLast?_of_mem_front {settings : Settings} {items : List Item} {p : Text}
    (h : p ∈ front settings items) : p.getLast? ≠ some '\n' := by
  rw [← map_ended_frontParts] at h
  obtain ⟨q, -, rfl⟩ := List.mem_map.mp h
  exact getLast?_ended q

/-- Exchanging a snippet exchanges its block: what stands before it and behind it is the same for
every snippet in its place. -/
theorem exists_around_block {settings : Settings} (hs : 1 ≤ settings.samples)
    (hi : 1 ≤ settings.iterations) (before after : List Item) :
    ∃ top bottom, ∀ s : Snippet, ∃ b,
      wrap s settings.samples settings.iterations = .ok (b ++ ['\n']) ∧
        build settings (before ++ .snippet s :: after) = .ok (top ++ b ++ bottom) := by
  refine ⟨(front settings (before ++ after) ++ before.map (placed settings)).flatMap (· ++ ['\n', '\n']),
    (after.map (placed settings)).flatMap (['\n', '\n'] ++ ·) ++ ['\n'], fun s => ?_⟩
  have hpart : PartOf settings (.snippet s) (placed settings (.snippet s)) :=
    partOf_placed hs hi (by simp)
  refine ⟨placed settings (.snippet s), ?_, ?_⟩
  · cases hpart with
    | snippet hwrap => exact hwrap
  · rw [build_eq hs hi, front_snippet, List.map_append, List.map_cons, ← List.append_assoc,
      Text.join_append_cons, ← List.append_assoc]

/-- The script of a document is its front and exactly one part for every item in order, with an empty
line between every two of them and one line end behind the last. What a snippet puts there is its own
block and nothing else. -/
theorem build_of_ofText (settings : Settings) (hs : 1 ≤ settings.samples)
    (hi : 1 ≤ settings.iterations) :
    (∀ document items, Item.ofText document = .ok items → ∃ parts,
      List.Forall₂ (PartOf settings) items parts ∧
        (∀ p ∈ front settings items ++ parts, p.getLast? ≠ some '\n') ∧
        build settings items =
          .ok (Text.join ['\n', '\n'] (front settings items ++ parts) ++ ['\n'])) ∧
      ∀ before after, ∃ top bottom, ∀ s : Snippet, ∃ b,
        wrap s settings.samples settings.iterations = .ok (b ++ ['\n']) ∧
          build settings (before ++ .snippet s :: after) = .ok (top ++ b ++ bottom) := by
  refine ⟨fun document items h => ?_, exists_around_block hs hi⟩
  refine ⟨items.map (placed settings), ?_, fun p hp => ?_, build_eq hs hi items⟩
  · refine List.forall₂_map_right_iff.mpr (List.forall₂_same.mpr fun item hmem => ?_)
    refine partOf_placed hs hi fun text htext => ?_
    rw [htext] at hmem
    exact getLast?_of_ofText h hmem
  · rcases List.mem_append.mp hp with hp | hp
    · exact getLast?_of_mem_front hp
    · obtain ⟨item, -, rfl⟩ := List.mem_map.mp hp
      exact getLast?_ended _

theorem build_of_ofText_lifted :
    ∃ parts,
      List.Forall₂ (PartOf ⟨2, 3, none, none, true⟩)
        [.content "from __future__ import a\nb", .snippet ⟨"x", []⟩] parts ∧
      (∀ p ∈ front ⟨2, 3, none, none, true⟩
        [.content "from __future__ import a\nb", .snippet ⟨"x", []⟩] ++ parts,
          p.getLast? ≠ some '\n') ∧
      build ⟨2, 3, none, none, true⟩ [.content "from __future__ import a\nb", .snippet ⟨"x", []⟩] =
        .ok (Text.join ['\n', '\n'] (front ⟨2, 3, none, none, true⟩
          [.content "from __future__ import a\nb", .snippet ⟨"x", []⟩] ++ parts) ++ ['\n']) :=
  (build_of_ofText ⟨2, 3, none, none, true⟩ (by decide) (by decide)).1
    "from __future__ import a\nb\n#@bench x" _ (by decide +kernel)

end SnippetBench.Script
