import SnippetBench.Text.Blank
import SnippetBench.Proofs.Document.Tokenized

/-!
# Declared names

The name of a declaration is the rest of its line, trimmed of braces, spaces and line ends, but not of
tabs, which the grammar lets stand behind a value like spaces. Every declaration of a valid document has
the name of its line (`Tokenized.declaration_mem_iff`), and what that is hinges on the tabs behind the
name (`Token.names_of_ofText`): a tab behind the closing brace keeps the brace from being trimmed, a tab
among braces and spaces is a name of its own, and a tab behind a bare name belongs to it. Without tabs
a name holds no brace, and its two spellings declare the same.
-/

namespace SnippetBench.Document

/-! ### The declarations of lines -/

/-- The declarations of tokenized lines are the declaration lines, each with its name and number. -/
theorem Tokenized.declaration_mem_iff {number : Nat} {lines : List Text} {tokens : List Token}
    (h : Tokenized number lines tokens) {name : Text} {k : Nat} : .declaration name k ∈ tokens ↔
      ∃ i line, lines[i]? = some line ∧ k = number + i ∧ IsDeclaration line ∧
        WellFormed (restOf line) ∧ name = nameOf line := by
  induction h with
  | nil => simp
  | @declaration number line lines tokens hd hw h ih =>
    rw [List.mem_cons, ih]
    constructor
    · rintro (heq | ⟨i, l, hl, rfl, hrest⟩)
      · cases heq
        exact ⟨0, line, rfl, rfl, hd, hw, rfl⟩
      · exact ⟨i + 1, l, hl, by omega, hrest⟩
    · rintro ⟨i, l, hl, rfl, hrest⟩
      cases i with
      | zero =>
        obtain rfl : line = l := by simpa using hl
        exact Or.inl (by rw [hrest.2.2]; rfl)
      | succ i => exact Or.inr ⟨i, l, by simpa using hl, by omega, hrest⟩
  | @content number run lines tokens hne plain stop h ih =>
    rw [List.mem_cons, ih]
    constructor
    · rintro (heq | ⟨i, l, hl, rfl, hrest⟩)
      · cases heq
      · refine ⟨run.length + i, l, ?_, by omega, hrest⟩
        rw [List.getElem?_append_right (Nat.le_add_right _ _), Nat.add_sub_cancel_left, hl]
    · rintro ⟨i, l, hl, rfl, hrest⟩
      by_cases hi : i < run.length
      · rw [List.getElem?_append_left hi] at hl
        exact absurd hrest.1 (plain l (List.mem_of_getElem? hl))
      · rw [List.getElem?_append_right (Nat.le_of_not_lt hi)] at hl
        exact Or.inr ⟨i - run.length, l, hl, by omega, hrest⟩

/-! ### Characters -/

section

variable {c : Char}

theorem eq_of_isGap (h : isGap c = true) : c = ' ' ∨ c = '\t' := by simpa [isGap] using h

theorem isBrace_of_isGap (h : isGap c = true) : isBrace c = false := by
  rcases eq_of_isGap h with rfl | rfl <;> decide

theorem isBlank_of_isGap (h : isGap c = true) : Text.isBlank c = true := by
  rcases eq_of_isGap h with rfl | rfl <;> decide

theorem isWord_of_isGap (h : isGap c = true) : Text.isWord c = false := by
  rcases eq_of_isGap h with rfl | rfl <;> decide +kernel

theorem isNameTrim_tab : isNameTrim '\t' = false := by decide

/-- A character that is no blank and no brace is not trimmed off a name. -/
theorem isNameTrim_eq_false (hbrace : isBrace c = false) (hblank : Text.isBlank c = false) :
    isNameTrim c = false := by
  have hne : c ≠ ' ' ∧ c ≠ '\n' ∧ c ≠ '\r' := by
    refine ⟨?_, ?_, ?_⟩ <;>
      · rintro rfl
        exact absurd hblank (by decide)
  simp [isNameTrim, hbrace, hne]

end

/-- Of blanks, tabs, braces and carriage returns all but the tabs are trimmed. -/
theorem forall_isNameTrim_iff {t : Text}
    (ht : ∀ c ∈ t, isBrace c = true ∨ isGap c = true ∨ c = '\r') :
    (∀ c ∈ t, isNameTrim c = true) ↔ '\t' ∉ t := by
  constructor
  · intro h htab
    have := h _ htab
    rw [isNameTrim_tab] at this
    cases this
  · intro htab c hc
    have hne : c ≠ '\t' := fun e => htab (e ▸ hc)
    rcases ht c hc with h | h | rfl
    · simp [isNameTrim, h]
    · obtain rfl := (eq_of_isGap h).resolve_right hne
      decide
    · decide

/-! ### Braces in a name -/

/-- The rest of a declaration line is a name in braces with a tab behind them. -/
def TabBehindBraces (rest : Text) : Prop :=
  ∃ inside after, rest = '{' :: (inside ++ '}' :: after) ∧ (∃ c ∈ inside, isNameTrim c = false) ∧
    '\t' ∈ after

/-- A tab behind the closing brace keeps it in the name. -/
theorem TabBehindBraces.exists_isBrace {rest : Text} (h : TabBehindBraces rest) :
    ∃ c ∈ Text.trim isNameTrim rest, isBrace c = true := by
  obtain ⟨inside, after, rfl, ⟨c, hc, hout⟩, htab⟩ := h
  obtain ⟨i, j, rfl⟩ := List.append_of_mem hc
  obtain ⟨a, b, rfl⟩ := List.append_of_mem htab
  have happ : '{' :: (i ++ c :: j ++ '}' :: (a ++ '\t' :: b)) =
      '{' :: i ++ c :: (j ++ '}' :: a) ++ '\t' :: b := by simp
  rw [happ, Text.trim_append_cons isNameTrim_tab, Text.dropWhile_append_cons hout]
  exact ⟨'}', by simp, by decide⟩

section

variable {inside after : Text}

theorem trim_open_cons (t : Text) : Text.trim isNameTrim ('{' :: t) = Text.trim isNameTrim t := rfl

/-- What is trimmed behind a name in braces is trimmed with the braces. -/
theorem trim_braced (hafter : ∀ c ∈ after, isNameTrim c = true) :
    Text.trim isNameTrim ('{' :: (inside ++ '}' :: after)) = Text.trim isNameTrim inside := by
  have hclose : ∀ c ∈ '}' :: after, isNameTrim c = true := List.forall_mem_cons.mpr ⟨by decide, hafter⟩
  rw [← List.cons_append, Text.trim_append_of_all hclose, trim_open_cons]

/-- Braces with nothing in them that stays are trimmed as a whole. -/
theorem trim_braced_of_all (hinside : ∀ c ∈ inside, isNameTrim c = true) :
    Text.trim isNameTrim ('{' :: (inside ++ '}' :: after)) = Text.trim isNameTrim after := by
  have hbraces : ∀ c ∈ '{' :: (inside ++ ['}']), isNameTrim c = true := by
    refine List.forall_mem_cons.mpr ⟨by decide, List.forall_mem_append.mpr ⟨hinside, ?_⟩⟩
    exact List.all_eq_true.mp (by decide)
  have happ : '{' :: (inside ++ '}' :: after) = '{' :: (inside ++ ['}']) ++ after := by simp
  rw [happ, Text.trim_append_left hbraces]

end

/-- A name holds a brace exactly if it stands in braces with a tab behind them. -/
theorem exists_isBrace_trim_iff {rest : Text} (h : WellFormed rest) :
    (∃ c ∈ Text.trim isNameTrim rest, isBrace c = true) ↔ TabBehindBraces rest := by
  refine ⟨?_, TabBehindBraces.exists_isBrace⟩
  have hplain : ∀ {t : Text}, (∀ c ∈ t, isBrace c = false) →
      ¬ ∃ c ∈ Text.trim isNameTrim t, isBrace c = true := by
    rintro t plain ⟨c, hc, hbrace⟩
    rw [plain c (Text.trim_subset _ _ hc)] at hbrace
    cases hbrace
  cases h with
  | bare plain => exact fun h => absurd h (hplain plain)
  | @braced inside gap cr plain blank hcr =>
    have hafter : ∀ c ∈ gap ++ cr, isGap c = true ∨ c = '\r' := by
      refine List.forall_mem_append.mpr ⟨fun c hc => Or.inl (blank c hc), ?_⟩
      rcases hcr with rfl | rfl <;> simp
    intro hname
    refine ⟨inside, gap ++ cr, rfl, ?_, ?_⟩
    · by_contra hnone
      have hinside : ∀ c ∈ inside, isNameTrim c = true := fun c hc => by
        by_contra hne
        exact hnone ⟨c, hc, by simpa using hne⟩
      rw [trim_braced_of_all hinside] at hname
      refine hplain (fun c hc => ?_) hname
      rcases hafter c hc with hgap | rfl
      · exact isBrace_of_isGap hgap
      · decide
    · by_contra htab
      rw [trim_braced ((forall_isNameTrim_iff fun c hc => Or.inr (hafter c hc)).mpr htab)] at hname
      exact hplain plain hname

/-! ### The spellings of a name -/

/-- A name that can be written bare and in braces: it is not empty, holds no brace and no line end and
neither starts nor ends with a blank. -/
structure IsName (w : Text) : Prop where
  ne_nil : w ≠ []
  plain : ∀ c ∈ w, isBrace c = false
  newline : '\n' ∉ w
  head : ∀ c, w.head? = some c → Text.isBlank c = false
  last : ∀ c, w.getLast? = some c → Text.isBlank c = false

/-- Behind a name only the end is trimmed. -/
theorem IsName.trim_append {w : Text} (hw : IsName w) (s : Text) :
    Text.trim isNameTrim (w ++ s) = w ++ Text.trimEnd isNameTrim s := by
  obtain ⟨t, x, rfl⟩ := (List.eq_nil_or_concat' w).resolve_left hw.ne_nil
  have hx : isNameTrim x = false :=
    isNameTrim_eq_false (hw.plain x (by simp)) (hw.last x (by simp))
  have ht : t.dropWhile isNameTrim = t := by
    cases t with
    | nil => rfl
    | cons c t =>
      have hc : isNameTrim c = false := isNameTrim_eq_false (hw.plain c (by simp)) (hw.head c rfl)
      exact List.dropWhile_cons_of_neg (by simp [hc])
  rw [List.append_assoc, List.singleton_append, Text.trim_append_cons hx, ht, List.append_assoc,
    List.singleton_append]

/-- A name stays alone exactly if all that stands behind it is trimmed. -/
theorem IsName.trim_append_eq_iff {w : Text} (hw : IsName w) (s : Text) :
    Text.trim isNameTrim (w ++ s) = w ↔ ∀ c ∈ s, isNameTrim c = true := by
  rw [hw.trim_append, List.append_right_eq_self]
  exact List.rdropWhile_eq_nil_iff

theorem IsName.dropWhile_isGap {w : Text} (hw : IsName w) (s : Text) :
    (w ++ s).dropWhile isGap = w ++ s := by
  obtain ⟨c, w, rfl⟩ := List.exists_cons_of_ne_nil hw.ne_nil
  refine List.dropWhile_cons_of_neg fun hgap => ?_
  have := hw.head c rfl
  rw [isBlank_of_isGap hgap] at this
  cases this

/-- The lines that spell a name, with blanks and tabs before and behind it. -/
inductive Spelling (w gap : Text) : Text → Prop
  /-- The name stands by itself, apart from the marker. -/
  | bare {before : Text} (hne : before ≠ []) (hbefore : ∀ c ∈ before, isGap c = true) :
      Spelling w gap (marker ++ (before ++ (w ++ gap) ++ ['\n']))
  /-- The name stands in braces. -/
  | braced {before : Text} (hbefore : ∀ c ∈ before, isGap c = true) :
      Spelling w gap (marker ++ (before ++ '{' :: (w ++ '}' :: gap) ++ ['\n']))

theorem newline_notMem_of_isGap {t : Text} (h : ∀ c ∈ t, isGap c = true) : '\n' ∉ t := fun m =>
  absurd (h _ m) (by decide)

/-- A spelled line is a well-formed declaration, which declares the name exactly if there is no tab
behind it. -/
theorem Spelling.declares {w gap line : Text} (h : Spelling w gap line) (hw : IsName w)
    (blank : ∀ c ∈ gap, isGap c = true) :
    IsDeclaration line ∧ WellFormed (restOf line) ∧ (nameOf line = w ↔ '\t' ∉ gap) := by
  have hgap := newline_notMem_of_isGap blank
  have htab := forall_isNameTrim_iff fun c hc => Or.inr (Or.inl (blank c hc))
  cases h with
  | @bare before hne hbefore =>
    have hbefore' := newline_notMem_of_isGap hbefore
    have hrest : restOf (marker ++ (before ++ (w ++ gap) ++ ['\n'])) = w ++ gap := by
      rw [restOf_line (by simp [hbefore', hw.newline, hgap]), List.dropWhile_append_of_pos hbefore,
        hw.dropWhile_isGap]
    refine ⟨?_, ?_, ?_⟩
    · obtain ⟨c, before, rfl⟩ := List.exists_cons_of_ne_nil hne
      exact ⟨c, _, rfl, isWord_of_isGap (hbefore c List.mem_cons_self)⟩
    · rw [hrest]
      exact .bare (List.forall_mem_append.mpr ⟨hw.plain, fun c hc => isBrace_of_isGap (blank c hc)⟩)
    · rw [nameOf, hrest, hw.trim_append_eq_iff, htab]
  | @braced before hbefore =>
    have hbefore' := newline_notMem_of_isGap hbefore
    have hrest : restOf (marker ++ (before ++ '{' :: (w ++ '}' :: gap) ++ ['\n'])) =
        '{' :: (w ++ '}' :: gap) := by
      rw [restOf_line (by simp [hbefore', hw.newline, hgap]), List.dropWhile_append_of_pos hbefore]
      exact List.dropWhile_cons_of_neg (by decide)
    refine ⟨?_, ?_, ?_⟩
    · cases before with
      | nil => exact ⟨'{', _, rfl, by decide +kernel⟩
      | cons c before => exact ⟨c, _, rfl, isWord_of_isGap (hbefore c List.mem_cons_self)⟩
    · have hwell := WellFormed.braced hw.plain blank (Or.inl rfl)
      rwa [hrest, ← List.append_nil gap]
    · rw [nameOf, hrest, trim_open_cons, hw.trim_append_eq_iff, List.forall_mem_cons, htab]
      exact and_iff_right (by decide)

/-! ### Documents -/

namespace Token

/-- **What a document declares.** Every declaration has the name of its line. It holds a brace exactly
if a tab stands behind a name in braces; if there are only braces, blanks and tabs, it is empty exactly
if there is no tab among them; and a name that can be written bare and in braces is declared by either
spelling, with blanks and tabs behind it, exactly if there is no tab among those. -/
theorem names_of_ofText (document : Text) (tokens : List Token)
    (h : ofText document = .ok tokens) :
    (∀ name number, .declaration name number ∈ tokens →
      ∃ i line, (documentLines document)[i]? = some line ∧ number = i + 1 ∧ IsDeclaration line ∧
        name = nameOf line ∧
        ((∃ c ∈ name, isBrace c = true) ↔ TabBehindBraces (restOf line)) ∧
        ((∀ c ∈ restOf line, isBrace c = true ∨ isGap c = true ∨ c = '\r') →
          (name = [] ↔ '\t' ∉ restOf line))) ∧
      ∀ w gap line, IsName w → (∀ c ∈ gap, isGap c = true) → Spelling w gap line →
        (IsDeclaration line ∧ WellFormed (restOf line)) ∧
          ∀ i, (documentLines document)[i]? = some line →
            (.declaration w (i + 1) ∈ tokens ↔ '\t' ∉ gap) := by
  have ht := Tokenized.of_ofText h
  refine ⟨fun name number hmem => ?_, fun w gap line hw blank hline => ?_⟩
  · obtain ⟨i, line, hi, hnumber, hd, hwell, rfl⟩ := ht.declaration_mem_iff.mp hmem
    refine ⟨i, line, hi, by omega, hd, rfl, exists_isBrace_trim_iff hwell, fun hblank => ?_⟩
    rw [nameOf, Text.trim_eq_nil_iff, forall_isNameTrim_iff hblank]
  · obtain ⟨hd, hwell, hname⟩ := hline.declares hw blank
    refine ⟨⟨hd, hwell⟩, fun i hi => ?_⟩
    rw [ht.declaration_mem_iff, ← hname]
    constructor
    · rintro ⟨j, l, hj, hk, -, -, rfl⟩
      obtain rfl : i = j := by omega
      rw [Option.some.inj (hi.symm.trans hj)]
    · exact fun heq => ⟨i, line, hi, Nat.add_comm i 1, hd, hwell, heq.symm⟩

theorem names_of_ofText_tabs :
    ofText "#@bench {x}\t\n#@bench y z\t\n#@bench {y z} \n" =
        .ok [.declaration "x\x7d\t" 1, .declaration "y z\t" 2, .declaration "y z" 3] ∧
      IsName "y z" ∧
      (.declaration "y z" 2 ∈ [.declaration "x\x7d\t" 1, .declaration "y z\t" 2,
        Token.declaration "y z" 3] ↔ '\t' ∉ ['\t']) ∧
      (.declaration "y z" 3 ∈ [.declaration "x\x7d\t" 1, .declaration "y z\t" 2,
        Token.declaration "y z" 3] ↔ '\t' ∉ [' ']) := by
  have h : ofText "#@bench {x}\t\n#@bench y z\t\n#@bench {y z} \n" =
      .ok [.declaration "x\x7d\t" 1, .declaration "y z\t" 2, .declaration "y z" 3] := by
    decide +kernel
  have hw : IsName "y z" :=
    ⟨by decide, by simp [isBrace], by decide, by rintro c ⟨⟩; decide, by rintro c ⟨⟩; decide⟩
  have hspelled := (names_of_ofText _ _ h).2
  refine ⟨h, hw, ?_, ?_⟩
  · exact (hspelled "y z" ['\t'] _ hw (List.all_eq_true.mp rfl)
      (@Spelling.bare _ _ [' '] (by decide) (List.all_eq_true.mp rfl))).2 1 (by decide +kernel)
  · exact (hspelled "y z" [' '] _ hw (List.all_eq_true.mp rfl)
      (@Spelling.braced _ _ [' '] (List.all_eq_true.mp rfl))).2 2 (by decide +kernel)

/-- With a tab behind it, the closing brace stays in a name; a tab in braces is a name; a tab behind a
bare name belongs to it. -/
theorem ofText_tab :
    ofText "#@bench {x}\t" = .ok [.declaration "x\x7d\t" 1] ∧
      ofText "#@bench \x7b\t\x7d" = .ok [.declaration "\t" 1] ∧
      ofText "#@bench x\t" = .ok [.declaration "x\t" 1] := by
  decide +kernel

end Token

end SnippetBench.Document
