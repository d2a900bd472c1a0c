import SnippetBench.Data.Basic

/-!
# Faults of a configuration

A fault says what is wrong with a value of a configuration and where the value stands: the keys and
list positions that lead to it from the root. A reader of options gives the options or all faults
in the order of the fields.
-/

namespace SnippetBench.Config

/-- What is wrong with a value. -/
inductive Problem
  | missing
  | unknownKey
  | keyNotText
  /-- Not a map, where the options of the given name are expected. -/
  | notOptions (name : Text)
  | notText
  /-- Bytes that encode no text, or a text that is broken. -/
  | textEncoding
  /-- A broken text that a report would have to show. -/
  | unwritable
  | unknownLevel (value : Text)
  | notList
  | emptyList
  | notInteger
  | integerSyntax
  | integerTooLong
  | fraction
  | notFinite
  | belowOne
  | notBoolean
  | booleanSyntax
  | notNumber
  | numberSyntax
  | notPositive
  deriving DecidableEq, Repr

namespace Problem

/-- The short name of a problem. -/
def code : Problem → Text
  | missing => "missing"
  | unknownKey => "extra_forbidden"
  | keyNotText => "invalid_key"
  | notOptions _ => "model_type"
  | notText => "string_type"
  | textEncoding | unwritable => "string_unicode"
  | unknownLevel _ => "value_error"
  | notList => "list_type"
  | emptyList => "too_short"
  | notInteger => "int_type"
  | integerSyntax => "int_parsing"
  | integerTooLong => "int_parsing_size"
  | fraction => "int_from_float"
  | notFinite => "finite_number"
  | belowOne => "greater_than_equal"
  | notBoolean => "bool_type"
  | booleanSyntax => "bool_parsing"
  | notNumber => "float_type"
  | numberSyntax => "float_parsing"
  | notPositive => "greater_than"

/-- The description of a problem. -/
def message : Problem → Text
  | missing => "Field required"
  | unknownKey => "Extra inputs are not permitted"
  | keyNotText => "Keys should be strings"
  | notOptions name => "Input should be a valid dictionary or instance of " ++ name
  | notText => "Input should be a valid string"
  | textEncoding | unwritable =>
    "Input should be a valid string, unable to parse raw data as a unicode string"
  | unknownLevel value => "Value error, unknown log level '" ++ value ++ "'"
  | notList => "Input should be a valid list"
  | emptyList => "List should have at least 1 item after validation, not 0"
  | notInteger => "Input should be a valid integer"
  | integerSyntax => "Input should be a valid integer, unable to parse string as an integer"
  | integerTooLong => "Unable to parse input string as an integer, exceeded maximum size"
  | fraction => "Input should be a valid integer, got a number with a fractional part"
  | notFinite => "Input should be a finite number"
  | belowOne => "Input should be greater than or equal to 1"
  | notBoolean => "Input should be a valid boolean"
  | booleanSyntax => "Input should be a valid boolean, unable to interpret input"
  | notNumber => "Input should be a valid number"
  | numberSyntax => "Input should be a valid number, unable to parse string as a number"
  | notPositive => "Input should be greater than 0"

end Problem

/-- One step of the way from the root to a value. -/
inductive Step
  | key (name : Text)
  | index (position : Int)
  deriving DecidableEq, Repr

/-- A problem and the place of the value that has it. -/
structure Fault where
  place : List Step
  problem : Problem
  deriving DecidableEq, Repr

/-- A value that was read, or the faults that were found. -/
abbrev Checked (α : Type) := Except (List Fault) α

namespace Checked

/-- The faults of a check. -/
def faults {α : Type} : Checked α → List Fault
  | .ok _ => []
  | .error fs => fs

/-- A check that finds one problem with the value itself. -/
def fail {α : Type} (p : Problem) : Checked α := .error [⟨[], p⟩]

/-- A check of a value that stands one step further from the root. -/
def under {α : Type} (s : Step) (c : Checked α) : Checked α :=
  c.mapError fun fs => fs.map fun f => { f with place := s :: f.place }

end Checked

end SnippetBench.Config
