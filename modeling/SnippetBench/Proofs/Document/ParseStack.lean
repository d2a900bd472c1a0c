import SnippetBench.Document.Item

/-!
# The parse stack

The items of a document may also be described without a snippet that is held back: they lie on a
stack, where a named declaration puts an empty snippet on top at once, and content is added to the
snippet on top, if there is one. Folding the tokens reads them in the same way. Before each token the
stack holds what has been written out and the held-back snippet on top of that, and where none is held
back there is no snippet on top (`Holds`). A token keeps this (`Holds.step`), so the end of the tokens
finds the same items on the stack (`ofTokens_eq_stack`).
-/

namespace SnippetBench.Document

/-- The items of the tokens that have been read, the last one on top, where the list starts. -/
abbrev Stack := List Item

namespace Stack

/-- The stack after a token. A declaration puts a snippet without code on top, or an empty content if
it has no name. Content is stripped, and added to the code of the item on top if that is a snippet;
otherwise it is put on top as an item of its own. -/
def read : Stack → Token → Stack
  | stack, .declaration name _ =>
    if name.isEmpty then .content [] :: stack else .snippet ⟨name, []⟩ :: stack
  | .snippet s :: below, .content text _ =>
    .snippet { s with code := s.code ++ Text.strip text } :: below
  | stack, .content text _ => .content (Text.strip text) :: stack

/-- The items that tokens leave on an empty stack, the bottom first. -/
def itemsOf (tokens : List Token) : List Item := (tokens.foldl read []).reverse

variable {stack : Stack}

/-- Content goes on top where no snippet is. -/
theorem read_content (h : ∀ s, stack.head? ≠ some (.snippet s)) (text : Text) (line : Nat) :
    stack.read (.content text line) = .content (Text.strip text) :: stack := by
  cases stack with
  | nil => rfl
  | cons top below =>
    cases top with
    | content old => rfl
    | snippet s => exact absurd rfl (h s)

end Stack

open Item (foldFrom)

/-- The stack holds the items that have been written out and, on top of them, the snippet that is
held back. Where none is, no snippet is on top. -/
structure Holds (stack : Stack) (written : List Item) (active : Option Snippet) : Prop where
  items : stack.reverse = written ++ (active.map Item.snippet).toList
  closed : active = none → ∀ s, stack.head? ≠ some (.snippet s)

namespace Holds

variable {stack : Stack} {written : List Item} {active : Option Snippet}

theorem eq_cons {s : Snippet} (h : Holds stack written (some s)) :
    stack = .snippet s :: written.reverse := by
  have hitems := congrArg List.reverse h.items
  simpa using hitems

/-- After a declaration the stack holds what was held back as written out. -/
theorem declaration (h : Holds stack written active) (name : Text) (line : Nat) :
    Holds (stack.read (.declaration name line))
      (written ++ ((active.map Item.snippet).toList ++ if name.isEmpty then [.content []] else []))
      (if name.isEmpty then none else some ⟨name, []⟩) := by
  by_cases hname : name.isEmpty
  · refine ⟨?_, fun _ s => ?_⟩
    · simp [Stack.read, hname, h.items]
    · simp [Stack.read, hname]
  · refine ⟨?_, fun hnone => ?_⟩
    · simp [Stack.read, hname, h.items]
    · simp [hname] at hnone

/-- Content goes into the held-back snippet in both readings. -/
theorem content_some {s : Snippet} (h : Holds stack written (some s)) (text : Text) (line : Nat) :
    Holds (stack.read (.content text line)) written
      (some { s with code := s.code ++ Text.strip text }) := by
  rw [h.eq_cons]
  refine ⟨?_, fun hnone => ?_⟩
  · simp [Stack.read]
  · cases hnone

/-- Content is an item of its own in both readings where nothing is held back. -/
theorem content_none (h : Holds stack written none) (text : Text) (line : Nat) :
    Holds (stack.read (.content text line)) (written ++ [.content (Text.strip text)]) none := by
  rw [Stack.read_content (h.closed rfl)]
  refine ⟨?_, fun _ s => ?_⟩
  · simp [h.items]
  · simp

/-- A token makes the fold write out some items and go on with what it then holds back, and the stack
holds the same again. -/
theorem step (h : Holds stack written active) (token : Token) :
    ∃ out active', Holds (stack.read token) (written ++ out) active' ∧
      ∀ tokens, foldFrom active (token :: tokens) = out ++ foldFrom active' tokens := by
  cases token with
  | declaration name line =>
    refine ⟨_, _, h.declaration name line, fun tokens => ?_⟩
    rw [foldFrom]
    split <;> simp
  | content text line =>
    cases active with
    | some s => exact ⟨[], _, by simpa using h.content_some text line, fun tokens => rfl⟩
    | none => exact ⟨_, none, h.content_none text line, fun tokens => rfl⟩

/-- What the stack holds after more tokens is what has been written out and what the fold makes of
them. -/
theorem run (h : Holds stack written active) (tokens : List Token) :
    (tokens.foldl Stack.read stack).reverse = written ++ foldFrom active tokens := by
  induction tokens generalizing stack written active with
  | nil => exact h.items
  | cons token tokens ih =>
    obtain ⟨out, active', hstep, hfold⟩ := h.step token
    rw [List.foldl_cons, ih hstep, hfold, List.append_assoc]

end Holds

/-- At the start nothing is on the stack and nothing is held back. -/
theorem holds_nil : Holds [] [] none := ⟨rfl, fun _ s => by simp⟩

/-- The items of tokens are those that the tokens leave on the stack. -/
theorem ofTokens_eq_stack (tokens : List Token) : Item.ofTokens tokens = Stack.itemsOf tokens :=
  (holds_nil.run tokens).symm

/-- Content behind an empty declaration does not go into the snippet before that. -/
example : Stack.itemsOf [.declaration "a" 1, .content "x\n" 2, .content " y\n" 3, .declaration [] 4,
    .content "z\n" 5] = [.snippet ⟨"a", "xy"⟩, .content [], .content "z"] := by decide

end SnippetBench.Document
