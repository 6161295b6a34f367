import ResourceLoom.Document.Access
import ResourceLoom.Document.Compact
import ResourceLoom.Error

/-! # Connection details

What a composed resource publishes for its users: fixed values, entries of its connection secret,
and fields of its document. Details contribute in order, a later one overriding an earlier one of
the same name, and an absent secret key or field contributes nothing.
-/
namespace ResourceLoom

/-- Named byte strings in key order. -/
abbrev Secret := List (String × List UInt8)

inductive ConnectionDetailType where
  | fromSecretKey
  | fromFieldPath
  | value
deriving DecidableEq, Repr

namespace ConnectionDetailType

def all : List ConnectionDetailType := [.fromSecretKey, .fromFieldPath, .value]

def name : ConnectionDetailType → String
  | fromSecretKey => "FromConnectionSecretKey"
  | fromFieldPath => "FromFieldPath"
  | value => "Value"

end ConnectionDetailType

structure ConnectionDetail where
  name : Option String
  type : Option ConnectionDetailType
  fromConnectionSecretKey : Option String
  fromFieldPath : Option String
  value : Option String
deriving DecidableEq, Repr

namespace ConnectionDetail

def blank : ConnectionDetail := ⟨none, none, none, none, none⟩

def ofSecretKey (key : String) (name : Option String) : ConnectionDetail :=
  { blank with name, fromConnectionSecretKey := some key }

def ofFieldPath (name path : String) : ConnectionDetail :=
  { blank with name := some name, fromFieldPath := some path }

def ofValue (name value : String) : ConnectionDetail :=
  { blank with name := some name, value := some value }

/-- The declared type, or else the one that the filled fields suggest. -/
def effectiveType (detail : ConnectionDetail) : ConnectionDetailType :=
  match detail.type with
  | some type => type
  | none =>
    if detail.value.isSome then .value
    else if detail.fromFieldPath.isSome then .fromFieldPath
    else .fromSecretKey

def required {α : Type} (detail : ConnectionDetail) (field : String) : Option α → Except Error α
  | some value => .ok value
  | none => .error (.ofCause (.requiredField field detail.effectiveType.name))

/-- Strings are published as they are, other values as compact JSON. -/
def bytesOf : Document → List UInt8
  | .string s => Text.utf8Bytes s
  | other => Text.utf8Bytes other.compact

/-- What one detail contributes. -/
def extract (detail : ConnectionDetail) (composed : Document) (secret : Secret) :
    Except Error (Option (String × List UInt8)) :=
  match detail.effectiveType with
  | .value => do
    let name ← detail.required "name" detail.name
    let value ← detail.required "value" detail.value
    return some (name, Text.utf8Bytes value)
  | .fromSecretKey => do
    let key ← detail.required "fromConnectionSecretKey" detail.fromConnectionSecretKey
    return (Fields.find? key secret).map fun bytes => (detail.name.getD key, bytes)
  | .fromFieldPath => do
    let path ← detail.required "fromFieldPath" detail.fromFieldPath
    let name ← detail.required "name" detail.name
    match composed.lookup path with
    | .ok found => return found.map fun value => (name, bytesOf value)
    | .error e => throw (.ofPath e)

/-- The output so far with the contributions of further details, the first of which has the given
position. -/
def extractFrom (composed : Document) (secret : Secret) :
    (index : Nat) → Secret → List ConnectionDetail → Except Error Secret
  | _, published, [] => .ok published
  | index, published, detail :: rest =>
    match detail.extract composed secret with
    | .error e => .error (e.within (.connectionDetail index))
    | .ok none => extractFrom composed secret (index + 1) published rest
    | .ok (some (name, bytes)) =>
      extractFrom composed secret (index + 1) (Fields.insert name bytes published) rest

def extractAll (composed : Document) (secret : Secret) (details : List ConnectionDetail) :
    Except Error Secret := extractFrom composed secret 0 [] details

end ConnectionDetail
end ResourceLoom
