import SnippetBench.Text.Basic

/-!
# Failures of the system

Why something cannot be done with a file or a program cannot be started. The system gives its
failures a number and a description. A path with a NUL character does not even reach the system.
-/

namespace SnippetBench.Files

/-- The numbers of the failures that have names here. -/
def namedNumbers : List Nat := [2, 8, 13, 16, 17, 20, 21, 36]

/-- Why the system refuses something. -/
inductive Failure
  | missing
  /-- The bytes of a file are no program. -/
  | notExecutable
  | notPermitted
  | busy
  | alreadyThere
  | notDirectory
  | isDirectory
  | nameTooLong
  /-- A failure that has no name here, with its number and description. -/
  | other (number : Nat) (apart : number ∉ namedNumbers) (description : Text)
  /-- The path has a NUL character. -/
  | nullInPath
  deriving DecidableEq, Repr

namespace Failure

/-- The number that the system gives a failure. -/
def number? : Failure → Option Nat
  | missing => some 2
  | notExecutable => some 8
  | notPermitted => some 13
  | busy => some 16
  | alreadyThere => some 17
  | notDirectory => some 20
  | isDirectory => some 21
  | nameTooLong => some 36
  | other number _ _ => some number
  | nullInPath => none

/-- The description of a failure. -/
def description : Failure → Text
  | missing => "No such file or directory"
  | notExecutable => "Exec format error"
  | notPermitted => "Permission denied"
  | busy => "Device or resource busy"
  | alreadyThere => "File exists"
  | notDirectory => "Not a directory"
  | isDirectory => "Is a directory"
  | nameTooLong => "File name too long"
  | other _ _ text => text
  | nullInPath => "embedded null byte"

/-- A failure as it is reported: number, if it has one, and description. -/
def message (f : Failure) : Text :=
  match f.number? with
  | some n => "[Errno " ++ Text.ofNat n ++ "] " ++ f.description
  | none => f.description

/-- The numbers of failures without a name here that mean an absence: a descriptor that is none, and
links that lead round in a circle. -/
def absenceNumbers : List Nat := [9, 40]

/-- Whether a failure means that nothing is where a path leads. -/
def isAbsence : Failure → Bool
  | missing | notDirectory | nullInPath => true
  | other number _ _ => absenceNumbers.contains number
  | _ => false

end Failure

end SnippetBench.Files
