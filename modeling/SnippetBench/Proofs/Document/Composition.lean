import SnippetBench.Document.Item
import SnippetBench.Proofs.Document.Tokenized

/-!
# Documents put together at a declaration

A document may be cut where a line has ended and a declaration line follows (`Meet`). What stands
before the cut and what stands behind it are then read as documents of their own: the tokens of the
whole are those of the front and those of the rest, with their lines counted on
(`Token.ofText_append`), and so are the items (`Item.ofText_append_of_meet`). A mistake in the front
comes first. The law is proved of lists of lines by induction on those of the front: reading a line
looks only at the first token behind it, and a declaration is never joined to what precedes it.
-/

namespace SnippetBench.Document

open Text (endLine newlineLines)

/-! ### The lines of two documents -/

/-- Two documents meet at a declaration: the front ends its last line, and the first line of the
rest is a declaration line. Both may be empty. -/
structure Meet (front rest : Text) : Prop where
  ended : ∀ c ∈ front.getLast?, c = '\n'
  declared : ∀ line ∈ (documentLines rest).head?, IsDeclaration line

theorem getD_getLast?_eq_iff {front : Text} :
    front.getLast?.getD '\n' = '\n' ↔ ∀ c ∈ front.getLast?, c = '\n' := by
  cases front.getLast? <;> simp

-- the library's instance for all characters would try each of them
instance (front rest : Text) : Decidable (Meet front rest) :=
  decidable_of_iff (front.getLast?.getD '\n' = '\n' ∧
      ∀ line ∈ (documentLines rest).head?, IsDeclaration line)
    ⟨fun h => ⟨getD_getLast?_eq_iff.mp h.1, h.2⟩,
      fun h => ⟨getD_getLast?_eq_iff.mpr h.ended, h.declared⟩⟩

variable {front rest : Text}

/-- The lines of documents that meet follow each other. -/
theorem Meet.documentLines_append (h : Meet front rest) :
    documentLines (front ++ rest) = documentLines front ++ documentLines rest := by
  have hfront : endLine front = front := Text.endLine_eq_self h.ended
  by_cases hne : rest = []
  · subst hne
    rw [List.append_nil, show documentLines [] = [] from rfl, List.append_nil]
  · have hlines : ∀ l ∈ documentLines front, Text.IsLine l := fun _ => isLine_of_mem_documentLines
    have hcut := Text.newlineLines_flatten_append hlines (endLine rest)
    rw [flatten_documentLines, hfront] at hcut
    rw [documentLines, Text.endLine_append front hne, hcut]
    rfl

/-- A document that ends its last line has as many lines as `\n`. -/
theorem Meet.length_documentLines (h : Meet front rest) :
    (documentLines front).length = front.count '\n' := by
  rw [← Text.count_newline_flatten fun _ => isLine_of_mem_documentLines, flatten_documentLines,
    Text.endLine_eq_self h.ended]

/-! ### Lines counted on -/

/-- A place, counted on by a number of lines. -/
def Misfit.below (lines : Nat) (m : Misfit) : Misfit := { m with line := m.line + lines }

namespace Token

/-- A token, counted on by a number of lines. -/
def below (lines : Nat) : Token → Token
  | declaration name line => declaration name (line + lines)
  | content text line => content text (line + lines)

/-- What is read of a document when a number of lines stands before it. -/
def readBelow (lines : Nat) (reading : Except Misfit (List Token)) : Except Misfit (List Token) :=
  (reading.map (List.map (below lines))).mapError (Misfit.below lines)

variable {number count : Nat} {lines : List Text}

theorem isContent_below (token : Token) : (token.below count).isContent = token.isContent := by
  cases token <;> rfl

theorem consContent_map_below (line : Text) (tokens : List Token) :
    consContent line (number + count) (tokens.map (below count)) =
      (consContent line number tokens).map (below count) := by
  rcases tokens with _ | ⟨token, tokens⟩
  · rfl
  · cases token <;> rfl

/-- Reading lines that are counted from elsewhere gives the same tokens, counted from there. -/
theorem ofLines_add (number count : Nat) (lines : List Text) :
    ofLines (number + count) lines = readBelow count (ofLines number lines) := by
  induction lines generalizing number with
  | nil => rfl
  | cons line lines ih =>
    have hnext : number + count + 1 = number + 1 + count := by omega
    rw [ofLines, ofLines, hnext, ih]
    split
    · cases mistake? (restOf line) with
      | some offset => rfl
      | none => cases ofLines (number + 1) lines <;> rfl
    · cases ofLines (number + 1) lines with
      | error m => rfl
      | ok tokens => exact congrArg Except.ok (consContent_map_below line tokens)

/-- Lines behind which a declaration line stands, or none, are read as if nothing stood there. -/
theorem ofLines_append {more : List Text} (stop : ∀ l, more.head? = some l → IsDeclaration l)
    (number : Nat) (lines : List Text) : ofLines number (lines ++ more) =
      ofLines number lines >>= fun tokens =>
        (ofLines (number + lines.length) more).map (tokens ++ ·) := by
  induction lines generalizing number with
  | nil => exact (map_nil_append _).symm
  | cons line lines ih =>
    have hnext : number + (line :: lines).length = number + 1 + lines.length := by
      rw [List.length_cons]
      omega
    rw [List.cons_append, ofLines, ofLines, ih, hnext]
    split
    · cases mistake? (restOf line) with
      | some offset => rfl
      | none =>
        cases ofLines (number + 1) lines with
        | error m => rfl
        | ok tokens => cases ofLines (number + 1 + lines.length) more <;> rfl
    · cases ofLines (number + 1) lines with
      | error m => rfl
      | ok tokens =>
        rcases tokens with _ | ⟨token, tokens⟩
        · show ((ofLines _ more).map ([] ++ ·)).map _ = _
          rw [map_nil_append]
          exact ofLines_map_consContent stop line number _
        · -- the line joins the first token or stands before it, whatever follows
          cases token <;> cases ofLines (number + 1 + lines.length) more <;> rfl

/-- The tokens of documents that meet at a declaration are those of the front and those of the
rest. -/
theorem ofText_append (h : Meet front rest) : ofText (front ++ rest) =
    ofText front >>= fun tokens =>
      (readBelow (front.count '\n') (ofText rest)).map (tokens ++ ·) := by
  rw [ofText_eq_ofLines, ofText_eq_ofLines, ofText_eq_ofLines, h.documentLines_append,
    ofLines_append h.declared, ofLines_add, h.length_documentLines]

end Token

/-! ### The items of two documents -/

namespace Item

/-- Items do not depend on where the lines are counted from. -/
theorem foldFrom_map_below (active : Option Snippet) (count : Nat) (tokens : List Token) :
    foldFrom active (tokens.map (Token.below count)) = foldFrom active tokens := by
  induction tokens generalizing active with
  | nil => rfl
  | cons token tokens ih =>
    cases token with
    | declaration name line => simp only [List.map_cons, Token.below, foldFrom, ih]
    | content text line => cases active <;> simp only [List.map_cons, Token.below, foldFrom, ih]

/-- A declaration, or the end of the tokens, closes the snippet that is collecting code. -/
theorem foldFrom_append {more : List Token} (stop : ∀ t, more.head? = some t → t.isContent = false)
    (active : Option Snippet) (tokens : List Token) :
    foldFrom active (tokens ++ more) = foldFrom active tokens ++ ofTokens more := by
  induction tokens generalizing active with
  | nil =>
    rcases more with _ | ⟨token, more⟩
    · exact (List.append_nil _).symm
    · cases token with
      | declaration name line => rfl
      | content text line => cases stop _ rfl
  | cons token tokens ih =>
    cases token with
    | declaration name line =>
      simp only [List.cons_append, foldFrom, ih, List.append_assoc]
      split <;> rfl
    | content text line => cases active <;> simp only [List.cons_append, foldFrom, ih]

/-- The items of documents that meet at a declaration, in one equation. -/
theorem ofText_append_eq (h : Meet front rest) : ofText (front ++ rest) =
    ofText front >>= fun items =>
      ((ofText rest).map (items ++ ·)).mapError (Misfit.below (front.count '\n')) := by
  unfold ofText
  rw [Token.ofText_append h]
  cases Token.ofText front with
  | error m => rfl
  | ok tokens =>
    cases hrest : Token.ofText rest with
    | error m => rfl
    | ok more =>
      have stop : ∀ t, (more.map (Token.below (front.count '\n'))).head? = some t →
          t.isContent = false := by
        intro t ht
        rw [List.head?_map, Option.map_eq_some_iff] at ht
        obtain ⟨s, hs, rfl⟩ := ht
        rw [Token.isContent_below]
        exact (Tokenized.of_ofText hrest).not_isContent_head? h.declared s hs
      have hitems := foldFrom_append stop none tokens
      rw [ofTokens, foldFrom_map_below] at hitems
      exact congrArg Except.ok hitems

/-- A document that is valid has a valid front and a valid rest. -/
theorem exists_of_ofText_append (h : Meet front rest) {items : List Item}
    (hitems : ofText (front ++ rest) = .ok items) :
    ∃ first, ofText front = .ok first ∧ ∃ second, ofText rest = .ok second ∧
      first ++ second = items := by
  rw [ofText_append_eq h] at hitems
  obtain ⟨first, hfirst, hrest⟩ := bind_eq_ok_iff.mp hitems
  exact ⟨first, hfirst, map_eq_ok_iff.mp (mapError_eq_ok_iff.mp hrest)⟩

/-- **Documents put together at a declaration** are valid exactly if both are, and have the items
of the front and then those of the rest. A mistake in the front stays where it is, and one in the
rest alone moves down by the lines of the front. So the items of the front stay, whatever is written
from a declaration line on. -/
theorem ofText_append_of_meet (front rest : Text) (h : Meet front rest) :
    ((∃ m, ofText (front ++ rest) = .error m) ↔
      (∃ m, ofText front = .error m) ∨ ∃ m, ofText rest = .error m) ∧
    (∀ first second, ofText front = .ok first → ofText rest = .ok second →
      ofText (front ++ rest) = .ok (first ++ second)) ∧
    (∀ m, ofText front = .error m → ofText (front ++ rest) = .error m) ∧
    (∀ first m, ofText front = .ok first → ofText rest = .error m →
      ofText (front ++ rest) = .error ⟨m.line + front.count '\n', m.column⟩) ∧
    ∀ other, Meet front other → ∀ items changed, ofText (front ++ rest) = .ok items →
      ofText (front ++ other) = .ok changed →
        ∃ first, ofText front = .ok first ∧ first <+: items ∧ first <+: changed := by
  have hwhole := ofText_append_eq h
  refine ⟨?_, ?_, ?_, ?_, ?_⟩
  · rw [hwhole]
    cases ofText front with
    | error m => simp [bind, Except.bind]
    | ok first => cases ofText rest <;> simp [bind, Except.bind, Except.map, Except.mapError]
  · intro first second hfront hrest
    rw [hwhole, hfront, hrest]
    rfl
  · intro m hfront
    rw [hwhole, hfront]
    rfl
  · intro first m hfront hrest
    rw [hwhole, hfront, hrest]
    rfl
  · intro other hother items changed hitems hchanged
    obtain ⟨first, hfirst, second, -, rfl⟩ := exists_of_ofText_append h hitems
    obtain ⟨first', hfirst', second', -, rfl⟩ := exists_of_ofText_append hother hchanged
    obtain rfl : first = first' := Except.ok.inj (hfirst.symm.trans hfirst')
    exact ⟨first, hfirst, List.prefix_append _ _, List.prefix_append _ _⟩

theorem ofText_append_of_meet_cut :
    (Meet "a\n#@bench x\ny\n" "#@bench {z}" ∧
      ofText ("a\n#@bench x\ny\n" ++ "#@bench {z}") =
        .ok ([.content "a", .snippet ⟨"x", "y"⟩] ++ [.snippet ⟨"z", []⟩])) ∧
      Meet "a\n" "#@bench\n#@bench \x7d" ∧
        ofText ("a\n" ++ "#@bench\n#@bench \x7d") = .error ⟨3, 9⟩ := by
  have hvalid : Meet "a\n#@bench x\ny\n" "#@bench {z}" := by decide +kernel
  have hinvalid : Meet "a\n" "#@bench\n#@bench \x7d" := by decide +kernel
  obtain ⟨-, hitems, -⟩ := ofText_append_of_meet _ _ hvalid
  obtain ⟨-, -, -, hmistake, -⟩ := ofText_append_of_meet _ _ hinvalid
  exact ⟨⟨hvalid, hitems _ _ (by decide +kernel) (by decide +kernel)⟩, hinvalid,
    hmistake [.content "a"] ⟨2, 9⟩ (by decide +kernel) (by decide +kernel)⟩

end Item

end SnippetBench.Document
