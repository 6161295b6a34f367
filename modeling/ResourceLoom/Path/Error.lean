import ResourceLoom.Path.Basic
import ResourceLoom.Text.Quoted

/-! # Faults of field paths

What can be wrong with the text of a path, with the document it is followed in, or with the value
found. Where a document is at fault the error holds the path that was followed.
-/
namespace ResourceLoom

inductive PathFault where
  | leadingPoint
  | missingName
  | trailingPoint
  | strayBracket
  | openBracket
  | emptyBrackets
  | afterBracket
deriving DecidableEq, Repr

def PathFault.message : PathFault → String
  | leadingPoint => "unexpected '.'"
  | missingName => "expected a field name"
  | trailingPoint => "trailing '.'"
  | strayBracket => "unexpected ']'"
  | openBracket => "unterminated '['"
  | emptyBrackets => "empty brackets"
  | afterBracket => "unexpected character after ']'"

inductive PathError where
  | emptyPath
  /-- The text cannot be read; the position counts bytes. -/
  | malformed (text : String) (fault : PathFault) (position : Nat)
  /-- The last step of the path leads nowhere, all before it does not. -/
  | notFound (path : Path)
  | notAnObject (path : Path)
  | notAnArray (path : Path)
  | typeMismatch (text expected found : String)
  | arrayTooLarge (path : Path) (index : UInt64)
  /-- A document does not have the shape of the typed value it should become. -/
  | conversion
deriving DecidableEq, Repr

namespace PathError

/-- What is missing where a path ends in nothing. -/
def missing (path : Path) : String :=
  match path.getLast? with
  | some (.index _) => "no such element"
  | _ => "no such field"

def message : PathError → String
  | emptyPath => "field path is empty"
  | malformed text fault position =>
    s!"cannot parse field path {Text.quoted text}: {fault.message} at position {position}"
  | notFound path => s!"{path.display}: {missing path}"
  | notAnObject path => s!"{path.display}: not an object"
  | notAnArray path => s!"{path.display}: not an array"
  | typeMismatch text expected found => s!"{text}: expected {expected}, found {found}"
  | arrayTooLarge path index => s!"{path.display}: cannot grow array to hold index {index}"
  | conversion => "cannot convert document"

end PathError
end ResourceLoom
