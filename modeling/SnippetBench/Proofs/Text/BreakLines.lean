import SnippetBench.Text.Lines
import Mathlib.Data.List.Basic

/-!
# Broken lines

Indentation sees more line ends than `\n`, and one of them has two characters. It cuts a text into
broken lines: runs without line break characters, each with one line end behind it, where the last
may lack it (`Broken`). Any broken lines are the lines of the text that they make up
(`Broken.breakLines_flatten`), and cutting a text loses nothing (`flatten_breakLines`).
-/

namespace SnippetBench.Text

/-! ### Line break characters -/

/-- The code points of the line break characters. -/
def lineBreakCodes : List Nat := [0xA, 0xB, 0xC, 0xD, 0x1C, 0x1D, 0x1E, 0x85, 0x2028, 0x2029]

theorem exists_code_of_isLineBreak {c : Char} (h : isLineBreak c = true) :
    ∃ n ∈ lineBreakCodes, Char.ofNat n = c := by
  simp only [isLineBreak, inRanges, List.any_cons, List.any_nil, Bool.or_false, Bool.or_eq_true,
    Bool.and_eq_true, decide_eq_true_eq] at h
  refine ⟨c.toNat, ?_, Char.ofNat_toNat c⟩
  simp only [lineBreakCodes, List.mem_cons, List.not_mem_nil, or_false]
  omega

/-! ### Broken lines -/

/-- What ends a line for indentation. -/
inductive IsLineEnd : Text → Prop
  /-- A line break character. -/
  | single {c : Char} (h : isLineBreak c = true) : IsLineEnd [c]
  /-- A carriage return with a line feed. -/
  | double : IsLineEnd ['\r', '\n']

/-- A text without line break characters. -/
def IsUnbroken (t : Text) : Prop := ∀ c ∈ t, isLineBreak c = false

/-- In `Broken lines` every line has one line end, at its end; the last line may have none. -/
inductive Broken : List Text → Prop
  /-- There may be no lines. -/
  | nil : Broken []
  /-- The last line may have no line end, but is not empty then. -/
  | last {body : Text} (hne : body ≠ []) (hbody : IsUnbroken body) : Broken [body]
  /-- A line with its line end stands before others. A carriage return and a line feed at the start
  of the next line would be one line end. -/
  | cons {body ending : Text} {lines : List Text} (hbody : IsUnbroken body)
      (hending : IsLineEnd ending) (hapart : ending = ['\r'] → lines.flatten.head? ≠ some '\n')
      (h : Broken lines) : Broken ((body ++ ending) :: lines)

theorem IsLineEnd.ne_nil {ending : Text} (h : IsLineEnd ending) : ending ≠ [] := by
  cases h <;> simp

/-- Only the two characters of the one line end are cut together. -/
theorem breakLines_cons_of_isLineBreak {c : Char} {rest : Text} (hc : isLineBreak c = true)
    (h : c = '\r' → rest.head? ≠ some '\n') : breakLines (c :: rest) = [c] :: breakLines rest := by
  rw [breakLines, if_pos hc]
  rintro rest' rfl rfl
  exact h rfl rfl

theorem breakLines_cons_of_ne {c : Char} {rest line : Text} {lines : List Text}
    (hc : isLineBreak c = false) (h : breakLines rest = line :: lines) :
    breakLines (c :: rest) = (c :: line) :: lines := by
  rw [breakLines, if_neg (by simp [hc]), h]
  rintro rest' rfl rfl
  exact absurd hc (by decide)

theorem breakLines_lineEnd_append {ending rest : Text} (hending : IsLineEnd ending)
    (h : ending = ['\r'] → rest.head? ≠ some '\n') :
    breakLines (ending ++ rest) = ending :: breakLines rest := by
  cases hending with
  | single hc => exact breakLines_cons_of_isLineBreak hc fun e => h (by rw [e])
  | double => rw [List.cons_append, List.cons_append, List.nil_append, breakLines]

theorem breakLines_body_append {body rest line : Text} {lines : List Text} (hbody : IsUnbroken body)
    (h : breakLines rest = line :: lines) :
    breakLines (body ++ rest) = (body ++ line) :: lines := by
  induction body with
  | nil => exact h
  | cons c body ih =>
    have hbody' : IsUnbroken body := fun d hd => hbody d (List.mem_cons_of_mem _ hd)
    exact breakLines_cons_of_ne (hbody c List.mem_cons_self) (ih hbody')

theorem breakLines_unbroken {body : Text} (hne : body ≠ []) (hbody : IsUnbroken body) :
    breakLines body = [body] := by
  obtain ⟨init, c, rfl⟩ := (List.eq_nil_or_concat' body).resolve_left hne
  have hc : isLineBreak c = false := hbody c (by simp)
  have hlast : breakLines [c] = [[c]] := by
    rw [breakLines, if_neg (by simp [hc])]
    · rfl
    · rintro rest' rfl ⟨⟩
  exact breakLines_body_append (fun d hd => hbody d (by simp [hd])) hlast

/-- Broken lines one after the other are cut into the same lines. -/
theorem Broken.breakLines_flatten {lines : List Text} (h : Broken lines) :
    breakLines lines.flatten = lines := by
  induction h with
  | nil => rfl
  | last hne hbody => rw [List.flatten_singleton, breakLines_unbroken hne hbody]
  | cons hbody hending hapart _ ih =>
    rw [List.flatten_cons, List.append_assoc]
    refine breakLines_body_append hbody ?_
    rw [breakLines_lineEnd_append hending hapart, ih]

/-- Cutting a text into its lines loses nothing. -/
theorem flatten_breakLines (t : Text) : (breakLines t).flatten = t := by
  fun_induction breakLines t with
  | case1 => rfl
  | case2 rest ih => rw [List.flatten_cons, ih]; rfl
  | case3 c rest _ _ ih => rw [List.flatten_cons, ih]; rfl
  | case4 c rest _ _ hnil ih =>
    rw [hnil] at ih
    rw [← ih]
    rfl
  | case5 c rest _ _ line lines hlines ih =>
    rw [hlines] at ih
    rw [← ih]
    rfl

/-- A character that ends no line before broken lines begins the first of them. -/
theorem Broken.cons_head {c : Char} {line : Text} {lines : List Text} (hc : isLineBreak c = false)
    (h : Broken (line :: lines)) : Broken ((c :: line) :: lines) := by
  have hcons : ∀ {body : Text}, IsUnbroken body → IsUnbroken (c :: body) := fun hbody d hd => by
    rcases List.mem_cons.mp hd with rfl | hd
    · exact hc
    · exact hbody d hd
  cases h with
  | last hne hbody => exact .last (by simp) (hcons hbody)
  | cons hbody hending hapart h => exact .cons (hcons hbody) hending hapart h

/-- The lines of a text are broken lines. -/
theorem broken_breakLines (t : Text) : Broken (breakLines t) := by
  have hempty : IsUnbroken [] := fun c hc => absurd hc List.not_mem_nil
  fun_induction breakLines t with
  | case1 => exact .nil
  | case2 rest ih => exact .cons hempty .double (by simp) ih
  | case3 c rest hne hc ih =>
    refine .cons hempty (.single hc) (fun e => ?_) ih
    rw [flatten_breakLines]
    intro hhead
    cases rest with
    | nil => cases hhead
    | cons d rest =>
      rw [List.head?_cons, Option.some.injEq] at hhead
      exact hne rest (by simpa using e) (by rw [hhead])
  | case4 c rest _ hc hnil ih =>
    exact .last (by simp) (by simpa [IsUnbroken] using hc)
  | case5 c rest _ hc line lines hlines ih =>
    rw [hlines] at ih
    exact ih.cons_head (by simpa using hc)

theorem Broken.ne_nil {line : Text} {lines : List Text} (h : Broken (line :: lines)) : line ≠ [] := by
  cases h with
  | last hne _ => exact hne
  | cons _ hending _ _ => exact fun e => hending.ne_nil (List.append_eq_nil_iff.mp e).2

end SnippetBench.Text
