import ResourceLoom.Document.Kind
import ResourceLoom.Path.Parse

/-! # Reading a document by path

`get` follows a path and says how far it came when it fails. The other readers take the text of a
path: `valueAt` any value, `stringAt` and `integerAt` one of a certain type, and `lookup` tells an
absent value from a document of the wrong shape, as `find` does for a path.
-/
namespace ResourceLoom.Document

/-- Follows the rest of a path from the value that the part `seen` of it has led to. -/
def getFrom (seen : Path) : Path → Document → Except PathError Document
  | [], reached => .ok reached
  | .field name :: rest, object fields =>
    match Fields.find? name fields with
    | some child => getFrom (seen ++ [.field name]) rest child
    | none => .error (.notFound (seen ++ [.field name]))
  | .field _ :: _, _ => .error (.notAnObject seen)
  | .index position :: rest, array items =>
    match items[position.toNat]? with
    | some child => getFrom (seen ++ [.index position]) rest child
    | none => .error (.notFound (seen ++ [.index position]))
  | .index _ :: _, _ => .error (.notAnArray seen)

def get (root : Document) (path : Path) : Except PathError Document := getFrom [] path root

def valueAt (root : Document) (text : String) : Except PathError Document := do
  root.get (← Path.parse text)

def stringAt (root : Document) (text : String) : Except PathError String := do
  match ← root.valueAt text with
  | string s => .ok s
  | other => .error (.typeMismatch text "string" other.shapeName)

def integerAt (root : Document) (text : String) : Except PathError Int64 := do
  match ← root.valueAt text with
  | number (.int n) => .ok n
  | other => .error (.typeMismatch text "integer" other.shapeName)

/-- The value at a path, or none where the path leads nowhere in a document of the right shape. -/
def find (root : Document) (path : Path) : Except PathError (Option Document) :=
  match root.get path with
  | .ok value => .ok (some value)
  | .error (.notFound _) => .ok none
  | .error e => .error e

def lookup (root : Document) (text : String) : Except PathError (Option Document) := do
  root.find (← Path.parse text)

end ResourceLoom.Document
