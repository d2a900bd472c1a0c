import SnippetBench.Proofs.Cli.Settled
import SnippetBench.Proofs.Files.Tree

/-!
# Reading a document in a settled session

What reading a document comes to depends on the text where its path leads, and on nothing else in
the tree (`yields_readDocument`). Only bytes that are no text are trouble; a document that cannot be
read otherwise, or does not parse, gives an exit code.
-/

namespace SnippetBench.Cli

open Document (Item Token)
open Files (Location Path Tree)
open Files.Tree (SameBut)

/-- What reading a document of a tree comes to: its text and items, an exit code or trouble. -/
def readingOf (tree : Tree) (p : Path) : Except Trouble (Except ExitCode (Text × List Item)) :=
  match tree.textAt p with
  | .error (.encoding m) => .error (.encoding m)
  | .error _ => .ok (.error .userError)
  | .ok text =>
    match Token.ofText text with
    | .error _ => .ok (.error .validationError)
    | .ok tokens => .ok (.ok (text, Item.ofTokens tokens))

variable {names : List Text} {versions : Interpreter.Versions} {I : Tree → Prop}
  {P : Location → Prop} {base : Tree}

/-- A record told by a part of a command. -/
theorem yields_part_note (w : World) {name : Text} (hname : name ∈ names)
    (hquiet : name ∈ quietLoggers) (level : Log.Level) (message : Text)
    (details : List (Text × Data)) :
    Yields (Settled names versions I) (Settled names versions I)
      (liftM (Work.note w name level message details) : Part Unit).run (.ok (.ok ())) [] :=
  (yields_note w hname hquiet level message details).lift

theorem yields_readDocument (w : World) {command : Text}
    (hcommand : commandLogger command ∈ names) (hquiet : commandLogger command ∈ quietLoggers)
    {p : Path} (hplace : ∀ place, base.locate p = .ok place → ¬ P place) :
    Yields (Settled names versions (SameBut P base))
      (Settled (documentLoggers.reverse ++ names) versions (SameBut P base))
      (readDocument w command p).run (readingOf base p) [] := by
  have hneed : ∀ name ∈ documentLoggers, name ∈ quietLoggers :=
    fun name hname => List.mem_append_right _ hname
  have hcommand' : commandLogger command ∈ documentLoggers.reverse ++ names :=
    List.mem_append_right _ hcommand
  have htokenizer : ("pybm.document.tokenizer" : Text) ∈ documentLoggers.reverse ++ names :=
    List.mem_append_left _ (by decide)
  have hparser : ("pybm.document.parser" : Text) ∈ documentLoggers.reverse ++ names :=
    List.mem_append_left _ (by decide)
  unfold readDocument
  refine (yields_needLoggers hneed).lift.part_next (Yields.part_get_bind fun s hs => ?_)
  refine Yields.at_session ?_ hs
  rw [hs.tree.textAt_eq hplace]
  unfold readingOf
  cases base.textAt p with
  | error e =>
    cases e with
    | encoding m => exact (Yields.throw _).lift_trouble
    | notFound q | notFile q | system f =>
      exact (yields_part_note w hcommand' hquiet _ _ _).part_next (Yields.pure _)
  | ok text =>
    dsimp only
    cases Token.ofText text with
    | error m => exact (yields_part_note w hcommand' hquiet _ _ _).part_next (Yields.pure _)
    | ok tokens =>
      exact (yields_part_note w htokenizer (hneed _ (by decide)) _ _ _).part_next
        ((yields_part_note w hparser (hneed _ (by decide)) _ _ _).part_next (Yields.pure _))

end SnippetBench.Cli
