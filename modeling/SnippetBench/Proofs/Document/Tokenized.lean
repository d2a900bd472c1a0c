import SnippetBench.Proofs.Document.LineReading
import SnippetBench.Proofs.Except

/-!
# The tokens of lines

`Tokenized number lines tokens` says which tokens stand for lines, the first of which has the given
number: one for every declaration line, and one for every longest run of content lines. Whatever
tokens are read from lines stand for them (`Tokenized.of_ofLines`), so what holds of the tokens of
every document is proved by induction on this relation.
-/

namespace SnippetBench.Document

open Text (IsLine)

namespace Token

/-- The number of the line on which a token starts. -/
def line : Token → Nat
  | declaration _ line => line
  | content _ line => line

/-- Whether a token is a content. -/
def isContent : Token → Bool
  | declaration _ _ => false
  | content _ _ => true

/-- Whether a token is a declaration. -/
def isDeclaration : Token → Bool
  | declaration _ _ => true
  | content _ _ => false

end Token

/-- In `Tokenized number lines tokens` the tokens stand for the lines, which are counted from the
given number. -/
inductive Tokenized : Nat → List Text → List Token → Prop
  /-- No lines have no tokens. -/
  | nil {number : Nat} : Tokenized number [] []
  /-- A declaration line with a well-formed rest declares its name. -/
  | declaration {number : Nat} {line : Text} {lines : List Text} {tokens : List Token}
      (hd : IsDeclaration line) (hw : WellFormed (restOf line))
      (h : Tokenized (number + 1) lines tokens) :
      Tokenized number (line :: lines) (.declaration (nameOf line) number :: tokens)
  /-- A run of content lines before a declaration line, or before none, is one content. -/
  | content {number : Nat} {run lines : List Text} {tokens : List Token} (hne : run ≠ [])
      (plain : ∀ l ∈ run, ¬ IsDeclaration l) (stop : ∀ l, lines.head? = some l → IsDeclaration l)
      (h : Tokenized (number + run.length) lines tokens) :
      Tokenized number (run ++ lines) (.content run.flatten number :: tokens)

namespace Tokenized

variable {number : Nat} {lines : List Text} {tokens : List Token}

/-- A content line before tokenized lines joins the content at their start. -/
theorem consContent {line : Text} (hd : ¬ IsDeclaration line) (h : Tokenized (number + 1) lines tokens) :
    Tokenized number (line :: lines) (Token.consContent line number tokens) := by
  have alone : ∀ (ls : List Text) (ts : List Token), (∀ l, ls.head? = some l → IsDeclaration l) →
      Tokenized (number + 1) ls ts →
      Tokenized number (line :: ls) (.content line number :: ts) := by
    intro ls ts stop h
    have hrun : Tokenized number ([line] ++ ls) (.content [line].flatten number :: ts) :=
      .content (by simp) (by simpa using hd) stop h
    rwa [List.flatten_singleton] at hrun
  cases h with
  | nil => exact alone _ _ (by simp) .nil
  | declaration hd' hw h => exact alone _ _ (by simpa using hd') (.declaration hd' hw h)
  | @content _ run lines tokens hne plain stop h =>
    have plain' : ∀ l ∈ line :: run, ¬ IsDeclaration l := by simpa [hd] using plain
    have hnumber : number + 1 + run.length = number + (line :: run).length := by
      rw [List.length_cons]
      omega
    rw [hnumber] at h
    show Tokenized number ((line :: run) ++ lines) (.content (line :: run).flatten number :: tokens)
    exact .content (by simp) plain' stop h

/-- The tokens that are read from lines stand for them. -/
theorem of_ofLines (h : Token.ofLines number lines = .ok tokens) : Tokenized number lines tokens := by
  induction lines generalizing number tokens with
  | nil =>
    cases h
    exact .nil
  | cons line lines ih =>
    rw [Token.ofLines] at h
    split at h
    · next hd =>
      cases hm : mistake? (restOf line) with
      | some offset => rw [hm] at h; cases h
      | none =>
        rw [hm] at h
        obtain ⟨tokens', htokens, rfl⟩ := map_eq_ok_iff.mp h
        exact .declaration hd (mistake?_eq_none_iff.mp hm) (ih htokens)
    · next hd =>
      obtain ⟨tokens', htokens, rfl⟩ := map_eq_ok_iff.mp h
      exact consContent hd (ih htokens)

/-- The tokens of a document stand for its lines. -/
theorem of_ofText {document : Text} (h : Token.ofText document = .ok tokens) :
    Tokenized 1 (documentLines document) tokens := by
  rw [Token.ofText_eq_ofLines] at h
  exact of_ofLines h

/-- The first token is a declaration exactly if the first line is one. -/
theorem not_isContent_head? (h : Tokenized number lines tokens)
    (stop : ∀ l, lines.head? = some l → IsDeclaration l) :
    ∀ t, tokens.head? = some t → t.isContent = false := by
  cases h with
  | nil => simp
  | declaration => simp [Token.isContent]
  | @content _ run lines tokens hne plain _ _ =>
    obtain ⟨l, run, rfl⟩ := List.exists_cons_of_ne_nil hne
    exact absurd (stop l rfl) (plain l List.mem_cons_self)

end Tokenized

end SnippetBench.Document
