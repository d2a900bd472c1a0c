import SnippetBench.Files.Replace

/-!
# The lifetime of a script

A generated script is put beside its document before it runs, and deleted when the runs are over,
unless it is kept. It is deleted also when the runs end in an error. That it cannot be deleted is
reported and is no error.
-/

namespace SnippetBench.Script

open Files (Action Failure Path Tree)

/-- What became of a script at the end of its lifetime. -/
inductive Removal
  | kept
  | deleted
  /-- It was not there any more. -/
  | absent
  | failed (why : Failure)
  deriving DecidableEq, Repr

/-- Begins the lifetime of a script. -/
def enter (p : Path) (script : Text) : Action Unit := Action.replace p script

/-- Ends the lifetime of a script. -/
def leave (p : Path) (keep : Bool) : StateM Tree Removal := do
  if keep then return .kept
  else match ← (Action.delete p).run with
    | .ok true => return .deleted
    | .ok false => return .absent
    | .error f => return .failed f

/-- Does something during the lifetime of a script. -/
def during {α : Type} (p : Path) (script : Text) (keep : Bool) (body : Action α) : Action α := do
  enter p script
  ExceptT.mk do
    let outcome ← body.run
    let _ ← leave p keep
    return outcome

end SnippetBench.Script
