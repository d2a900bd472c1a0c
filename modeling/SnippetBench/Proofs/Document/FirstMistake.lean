import SnippetBench.Proofs.Document.LineReading
import SnippetBench.Proofs.Except

/-!
# The first mistake of a document

A document is invalid exactly when one of its declaration lines is malformed, and the reported place
is that of the first mistake: the line is the first malformed one, and the column that of the first
character of its rest that does not fit (`ofText_error_iff`). Lines that are no declaration lines are
never malformed, whatever they hold.
-/

namespace SnippetBench.Document

/-- A line is malformed if it is a declaration line and its rest is not well formed. -/
def Malformed (line : Text) : Prop := IsDeclaration line ∧ ¬ WellFormed (restOf line)

/-- A place is that of the first mistake in lines: no line before that of the place is malformed.
Lines are counted by the `\n` before them, columns by the characters of the line, both from one. -/
def FirstMistake (lines : List Text) (place : Misfit) : Prop :=
  ∃ before line after offset, lines = before ++ line :: after ∧ (∀ l ∈ before, ¬ Malformed l) ∧
    IsDeclaration line ∧ Mistake (restOf line) offset ∧
    place.line = before.flatten.count '\n' + 1 ∧
    place.column = (marker ++ gapOf line).length + offset + 1

theorem Mistake.not_wellFormed {rest : Text} {k : Nat} (h : Mistake rest k) : ¬ WellFormed rest :=
  fun hw => absurd (hw.mistake?_eq.symm.trans h.mistake?_eq) (by simp)

namespace Token

/-- Reading lines fails in the first one, or passes it and fails in a later one. -/
theorem ofLines_cons_eq_error_iff {line : Text} {lines : List Text} {number : Nat} {place : Misfit} :
    ofLines number (line :: lines) = .error place ↔
      (∃ offset, IsDeclaration line ∧ Mistake (restOf line) offset ∧
        place = ⟨number, columnOf line offset⟩) ∨
      (¬ Malformed line ∧ ofLines (number + 1) lines = .error place) := by
  rw [ofLines]
  by_cases hd : IsDeclaration line
  · rw [if_pos hd]
    cases hm : mistake? (restOf line) with
    | some offset =>
      have hk := mistake?_eq_some_iff.mp hm
      constructor
      · intro h
        cases h
        exact Or.inl ⟨offset, hd, hk, rfl⟩
      · rintro (⟨j, -, hj, rfl⟩ | ⟨h, -⟩)
        · rw [Option.some.inj (hm.symm.trans hj.mistake?_eq)]
        · exact absurd ⟨hd, hk.not_wellFormed⟩ h
    | none =>
      have hw := mistake?_eq_none_iff.mp hm
      constructor
      · exact fun h => Or.inr ⟨fun hl => hl.2 hw, map_eq_error_iff.mp h⟩
      · rintro (⟨j, -, hj, rfl⟩ | ⟨-, h⟩)
        · exact absurd hw hj.not_wellFormed
        · exact map_eq_error_iff.mpr h
  · rw [if_neg hd]
    constructor
    · exact fun h => Or.inr ⟨fun hl => hd hl.1, map_eq_error_iff.mp h⟩
    · rintro (⟨j, h, -⟩ | ⟨-, h⟩)
      · exact absurd h hd
      · exact map_eq_error_iff.mpr h

/-- Reading lines fails exactly at the first mistake. -/
theorem ofLines_eq_error_iff {lines : List Text} {number : Nat} {place : Misfit} :
    ofLines number lines = .error place ↔
      ∃ before line after offset, lines = before ++ line :: after ∧
        (∀ l ∈ before, ¬ Malformed l) ∧ IsDeclaration line ∧ Mistake (restOf line) offset ∧
        place = ⟨number + before.length, columnOf line offset⟩ := by
  constructor
  · intro h
    induction lines generalizing number with
    | nil => cases h
    | cons line lines ih =>
      rcases ofLines_cons_eq_error_iff.mp h with ⟨offset, hd, hm, rfl⟩ | ⟨hline, h⟩
      · exact ⟨[], line, lines, offset, rfl, by simp, hd, hm, rfl⟩
      · obtain ⟨before, line', after, offset, rfl, hbefore, hd, hm, rfl⟩ := ih h
        refine ⟨line :: before, line', after, offset, rfl, by simpa [hline] using hbefore, hd, hm, ?_⟩
        simp only [List.length_cons, Misfit.mk.injEq, and_true]
        omega
  · rintro ⟨before, line, after, offset, rfl, hbefore, hd, hm, rfl⟩
    induction before generalizing number with
    | nil => exact ofLines_cons_eq_error_iff.mpr (Or.inl ⟨offset, hd, hm, rfl⟩)
    | cons l before ih =>
      have hlen : number + (l :: before).length = number + 1 + before.length := by
        rw [List.length_cons]
        omega
      rw [List.cons_append, hlen]
      exact ofLines_cons_eq_error_iff.mpr (Or.inr ⟨hbefore l List.mem_cons_self,
        ih fun l' hl' => hbefore l' (List.mem_cons_of_mem _ hl')⟩)

/-- A malformed line makes the reading fail, there or before. -/
theorem exists_error_of_malformed {lines : List Text} {line : Text} (hmem : line ∈ lines)
    (h : Malformed line) (number : Nat) : ∃ place, ofLines number lines = .error place := by
  induction lines generalizing number with
  | nil => cases hmem
  | cons l lines ih =>
    by_cases hl : Malformed l
    · obtain ⟨offset, hm⟩ := (wellFormed_or_mistake (restOf l)).resolve_left hl.2
      exact ⟨_, ofLines_cons_eq_error_iff.mpr (Or.inl ⟨offset, hl.1, hm, rfl⟩)⟩
    · have hmem' : line ∈ lines := (List.mem_cons.mp hmem).resolve_left fun e => hl (e ▸ h)
      obtain ⟨place, hplace⟩ := ih hmem' (number + 1)
      exact ⟨place, ofLines_cons_eq_error_iff.mpr (Or.inr ⟨hl, hplace⟩)⟩

/-- A document is invalid exactly when one of its declaration lines is malformed, and the mistake is
then placed at the first character that does not fit in the first such line. -/
theorem ofText_error_iff (document : Text) :
    ((∃ place, ofText document = .error place) ↔ ∃ line ∈ documentLines document, Malformed line) ∧
      ∀ place, ofText document = .error place ↔ FirstMistake (documentLines document) place := by
  have hlines : ∀ {before : List Text} {line : Text} {after : List Text},
      documentLines document = before ++ line :: after → before.flatten.count '\n' = before.length :=
    fun h => Text.count_newline_flatten fun l hl => isLine_of_mem_documentLines
      (show l ∈ documentLines document from h ▸ List.mem_append_left _ hl)
  rw [ofText_eq_ofLines]
  refine ⟨⟨fun ⟨place, h⟩ => ?_, fun ⟨line, hmem, h⟩ => exists_error_of_malformed hmem h 1⟩,
    fun place => ⟨fun h => ?_, ?_⟩⟩
  · obtain ⟨before, line, after, offset, heq, -, hd, hm, -⟩ := ofLines_eq_error_iff.mp h
    exact ⟨line, by simp [heq], hd, hm.not_wellFormed⟩
  · obtain ⟨before, line, after, offset, heq, hbefore, hd, hm, rfl⟩ := ofLines_eq_error_iff.mp h
    refine ⟨before, line, after, offset, heq, hbefore, hd, hm, ?_, ?_⟩
    · rw [hlines heq, Nat.add_comm]
    · rw [columnOf, List.length_append]
  · rintro ⟨before, line, after, offset, heq, hbefore, hd, hm, hline, hcolumn⟩
    refine ofLines_eq_error_iff.mpr ⟨before, line, after, offset, heq, hbefore, hd, hm, ?_⟩
    rw [columnOf, ← List.length_append, ← hcolumn, ← hlines heq, Nat.add_comm, ← hline]

example : ofText "#@benches {a} {b}\n#@bench {a}\t{b}\n#@bench a{b}" = .error ⟨2, 13⟩ := by decide +kernel

end Token

end SnippetBench.Document
