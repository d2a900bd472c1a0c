import SnippetBench.Proofs.Document.Tokenized
import Mathlib.Data.List.Chain

/-!
# Tokens lose nothing

The tokens of a document, written out one after the other, are the document (`Lossless`): every
content as its text, and every declaration as the line of the document that has its number. Contents
are the longest runs of content lines, and every token carries the number of its first line.
-/

namespace SnippetBench.Document

open Text (IsLine newlineLines endLine)

/-- A token written out: a content is its text, a declaration the line of its number. -/
def Token.written (lines : List Text) : Token → Text
  | .declaration _ line => lines[line - 1]?.getD []
  | .content text _ => text

/-- The tokens of a document keep all of it, and each is where its line says. -/
structure Lossless (document : Text) (tokens : List Token) : Prop where
  /-- Written out in order, the tokens are the document with its final line end. -/
  written_eq : tokens.flatMap (Token.written (documentLines document)) = endLine document
  /-- A content is not empty, ends its last line and holds no declaration line. -/
  content : ∀ text line, Token.content text line ∈ tokens →
    text ≠ [] ∧ text.getLast? = some '\n' ∧ ∀ l ∈ newlineLines text, ¬ IsDeclaration l
  /-- No content follows a content. -/
  separate : tokens.IsChain fun s t => ¬ (s.isContent = true ∧ t.isContent = true)
  /-- There are as many declarations as declaration lines. -/
  declarations : tokens.countP Token.isDeclaration =
    (documentLines document).countP fun line => IsDeclaration line
  /-- The line of a token counts the `\n` before its first character. -/
  line_eq : ∀ before token after, tokens = before ++ token :: after →
    token.line = (before.flatMap (Token.written (documentLines document))).count '\n' + 1
  /-- The lines of the tokens increase. -/
  increasing : (tokens.map Token.line).Pairwise (· < ·)

namespace Tokenized

variable {number : Nat} {lines : List Text} {tokens : List Token}

/-- Written out, the tokens of lines are the lines. -/
theorem flatMap_written (h : Tokenized number lines tokens) (before : List Text)
    (hnumber : number = before.length + 1) :
    tokens.flatMap (Token.written (before ++ lines)) = lines.flatten := by
  induction h generalizing before with
  | nil => rfl
  | @declaration number line lines tokens hd hw h ih =>
    have hline : (before ++ line :: lines)[number - 1]? = some line := by simp [hnumber]
    have hih := ih (before ++ [line]) (by simp [hnumber])
    rw [List.append_assoc, List.singleton_append] at hih
    rw [List.flatMap_cons, hih, Token.written, hline]
    rfl
  | @content number run lines tokens hne plain stop h ih =>
    have hih := ih (before ++ run) (by rw [List.length_append, hnumber]; omega)
    rw [List.append_assoc] at hih
    rw [List.flatMap_cons, hih, Token.written, List.flatten_append]

/-- A content is a run of content lines. -/
theorem exists_run (h : Tokenized number lines tokens) {text : Text} {line : Nat}
    (hmem : .content text line ∈ tokens) :
    ∃ run, run ≠ [] ∧ run ⊆ lines ∧ (∀ l ∈ run, ¬ IsDeclaration l) ∧ text = run.flatten := by
  induction h with
  | nil => cases hmem
  | declaration hd hw h ih =>
    obtain ⟨run, hne, hsub, plain, rfl⟩ := ih (by simpa using hmem)
    exact ⟨run, hne, List.subset_cons_of_subset _ hsub, plain, rfl⟩
  | @content number run lines tokens hne plain stop h ih =>
    rcases List.mem_cons.mp hmem with heq | hmem
    · cases heq
      exact ⟨run, hne, List.subset_append_left run lines, plain, rfl⟩
    · obtain ⟨run', hne', hsub, plain', rfl⟩ := ih hmem
      exact ⟨run', hne', List.subset_append_of_subset_right run hsub, plain', rfl⟩

theorem separate (h : Tokenized number lines tokens) :
    tokens.IsChain fun s t => ¬ (s.isContent = true ∧ t.isContent = true) := by
  induction h with
  | nil => exact .nil
  | declaration hd hw h ih => exact List.isChain_cons.mpr ⟨by simp [Token.isContent], ih⟩
  | content hne plain stop h ih =>
    refine List.isChain_cons.mpr ⟨fun t ht => ?_, ih⟩
    simp [h.not_isContent_head? stop t ht]

theorem countP_isDeclaration (h : Tokenized number lines tokens) :
    tokens.countP Token.isDeclaration = lines.countP fun line => IsDeclaration line := by
  induction h with
  | nil => rfl
  | declaration hd hw h ih =>
    rw [List.countP_cons_of_pos rfl, List.countP_cons_of_pos (by simpa using hd), ih]
  | @content number run lines tokens hne plain stop h ih =>
    have hrun : (run.countP fun line => IsDeclaration line) = 0 :=
      List.countP_eq_zero.mpr fun l hl => by simpa using plain l hl
    rw [List.countP_cons, ih, List.countP_append, hrun, Nat.zero_add]
    rfl

/-- The line of a token counts the `\n` of the tokens before it. -/
theorem line_eq (h : Tokenized number lines tokens) (hlines : ∀ l ∈ lines, IsLine l)
    (pre : List Text) (hnumber : number = pre.length + 1) {before after : List Token} {token : Token}
    (heq : tokens = before ++ token :: after) :
    token.line = (before.flatMap (Token.written (pre ++ lines))).count '\n' + number := by
  induction h generalizing pre before with
  | nil => simp at heq
  | @declaration number line lines tokens hd hw h ih =>
    cases before with
    | nil =>
      obtain ⟨rfl, -⟩ := List.cons.inj heq
      simp [Token.line]
    | cons t before =>
      obtain ⟨rfl, htail⟩ := List.cons.inj heq
      have hline : (pre ++ line :: lines)[number - 1]? = some line := by simp [hnumber]
      have hih := ih (fun l hl => hlines l (List.mem_cons_of_mem _ hl)) (pre ++ [line])
        (by simp [hnumber]) htail
      rw [List.append_assoc, List.singleton_append] at hih
      rw [hih, List.flatMap_cons, List.count_append, Token.written, hline, Option.getD_some,
        (hlines line List.mem_cons_self).count_newline]
      omega
  | @content number run lines tokens hne plain stop h ih =>
    cases before with
    | nil =>
      obtain ⟨rfl, -⟩ := List.cons.inj heq
      simp [Token.line]
    | cons t before =>
      obtain ⟨rfl, htail⟩ := List.cons.inj heq
      have hih := ih (fun l hl => hlines l (List.mem_append_right _ hl)) (pre ++ run)
        (by rw [List.length_append, hnumber]; omega) htail
      rw [List.append_assoc] at hih
      rw [hih, List.flatMap_cons, List.count_append, Token.written,
        Text.count_newline_flatten fun l hl => hlines l (List.mem_append_left _ hl)]
      omega

/-- No token starts before the first line. -/
theorem le_line (h : Tokenized number lines tokens) : ∀ t ∈ tokens, number ≤ t.line := by
  induction h with
  | nil => simp
  | declaration hd hw h ih =>
    intro t ht
    rcases List.mem_cons.mp ht with rfl | ht
    · exact Nat.le_refl _
    · exact Nat.le_of_succ_le (ih t ht)
  | content hne plain stop h ih =>
    intro t ht
    rcases List.mem_cons.mp ht with rfl | ht
    · exact Nat.le_refl _
    · exact Nat.le_trans (Nat.le_add_right _ _) (ih t ht)

theorem increasing (h : Tokenized number lines tokens) :
    (tokens.map Token.line).Pairwise (· < ·) := by
  induction h with
  | nil => exact .nil
  | declaration hd hw h ih =>
    refine List.pairwise_cons.mpr ⟨fun n hn => ?_, ih⟩
    obtain ⟨t, ht, rfl⟩ := List.mem_map.mp hn
    exact h.le_line t ht
  | content hne plain stop h ih =>
    refine List.pairwise_cons.mpr ⟨fun n hn => ?_, ih⟩
    obtain ⟨t, ht, rfl⟩ := List.mem_map.mp hn
    exact Nat.lt_of_lt_of_le (Nat.lt_add_of_pos_right (List.length_pos_iff.mpr hne)) (h.le_line t ht)

end Tokenized

/-- Tokens lose nothing: the tokens of a document, written out in order, are the document, and each
stands on the line that it carries. -/
theorem Token.lossless_of_ofText (document : Text) (tokens : List Token)
    (h : Token.ofText document = .ok tokens) : Lossless document tokens := by
  have ht := Tokenized.of_ofText h
  have hlines : ∀ l ∈ documentLines document, IsLine l := fun _ => isLine_of_mem_documentLines
  refine ⟨?_, fun text line hmem => ?_, ht.separate, ht.countP_isDeclaration,
    fun before token after heq => ?_, ht.increasing⟩
  · rw [← flatten_documentLines]
    exact ht.flatMap_written [] rfl
  · obtain ⟨run, hne, hsub, plain, rfl⟩ := ht.exists_run hmem
    have hrun : ∀ l ∈ run, IsLine l := fun l hl => hlines l (hsub hl)
    have hlast := Text.getLast?_flatten hne hrun
    rw [Text.newlineLines_flatten hrun]
    exact ⟨fun e => absurd (e ▸ hlast) (by simp), hlast, plain⟩
  · exact ht.line_eq hlines [] rfl heq

theorem Token.lossless_of_ofText_declaration :
    Lossless "a\n#@bench {x} \nb" [.content "a\n" 1, .declaration "x" 2, .content "b\n" 3] :=
  lossless_of_ofText _ _ (by decide +kernel)

end SnippetBench.Document
