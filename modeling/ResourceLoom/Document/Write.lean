import ResourceLoom.Document.Access
import ResourceLoom.Outcome

/-! # Writing into a document by path

`set` creates what the path needs: absent fields, containers in place of values of another kind, and
array elements up to the addressed one, padded with null. The root alone keeps its kind. Array
positions are bounded, and the bound is checked before anything is written.
-/
namespace ResourceLoom.Document

/-- The greatest array position that a write may address. -/
def maxIndex : Nat := 1000000

/-- The first array position beyond the bound, with the path before it. -/
def firstTooLarge? (seen : Path) : Path → Option (Path × UInt64)
  | [] => none
  | .field name :: rest => firstTooLarge? (seen ++ [.field name]) rest
  | .index position :: rest =>
    if maxIndex < position.toNat then some (seen, position)
    else firstTooLarge? (seen ++ [.index position]) rest

/-- An array padded with null until it has the given position. -/
def padded (items : List Document) (position : Nat) : List Document :=
  items ++ List.replicate (position + 1 - items.length) null

/-- The array padded to the position, unless its length would exceed every word. -/
def grown? (items : List Document) (position : UInt64) : Option (List Document) :=
  if position.toNat < items.length then some items
  else if position.toNat + 1 < Decimal.wordBound then some (padded items position.toNat)
  else none

/-- Makes a value into the container that the next segment steps into. -/
def prepare (seen : Path) (value : Document) : Path → Outcome PathError Document
  | [] => .done value
  | .field _ :: _ => match value with
    | object fields => .done (object fields)
    | _ => .done (object [])
  | .index position :: _ =>
    let items := value.asArray?.getD []
    match grown? items position with
    | some items => .done (array items)
    | none => .fail (.arrayTooLarge seen position) (array items)

/-- Writes below the value that the part `seen` of the path has led to. What has been created or
padded stays when the way ends in an error further down. -/
def setFrom (value : Document) (seen : Path) : Path → Document → Outcome PathError Document
  | [], _ => .done value
  | .field name :: rest, object fields =>
    let seen := seen ++ [.field name]
    let child := (Fields.find? name fields).getD null
    let written := (child.prepare seen rest).andThen fun child => setFrom value seen rest child
    written.onState fun child => object (Fields.insert name child fields)
  | .index position :: rest, array items =>
    match grown? items position with
    | none => .fail (.arrayTooLarge seen position) (array items)
    | some items =>
      let seen := seen ++ [.index position]
      match items[position.toNat]? with
      | none => .fail (.notFound seen) (array items)
      | some child =>
        let written := (child.prepare seen rest).andThen fun child => setFrom value seen rest child
        written.onState fun child => array (items.set position.toNat child)
  | .field _ :: _, root => .fail (.notAnObject seen) root
  | .index _ :: _, root => .fail (.notAnArray seen) root

def set (root : Document) (path : Path) (value : Document) : Outcome PathError Document :=
  if path = [] then .fail .emptyPath root
  else match firstTooLarge? [] path with
    | some (seen, position) => .fail (.arrayTooLarge seen position) root
    | none => setFrom value [] path root

/-- Writes at the path that a text names. -/
def write (root : Document) (text : String) (value : Document) : Outcome PathError Document :=
  match Path.parse text with
  | .ok path => root.set path value
  | .error e => .fail e root

end ResourceLoom.Document
