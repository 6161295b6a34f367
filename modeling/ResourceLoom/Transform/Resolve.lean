import ResourceLoom.Template.Format
import ResourceLoom.Transform.Basic
import ResourceLoom.Transform.Conversion

/-! # Resolving values through transforms

A transform other than combine resolves each value on its own, and an error among several values
says which one failed. A chain runs its transforms in order and has to end with exactly one value.
-/
namespace ResourceLoom.Transform

/-- Resolves every value from the given position on, stopping at the first that fails. -/
def resolveFrom (resolve : Document → Except Error Document) :
    (index : Nat) → List Document → Except Error (List Document)
  | _, [] => .ok []
  | index, v :: rest =>
    match resolve v with
    | .error e => .error (e.within (.value index))
    | .ok w => (w :: ·) <$> resolveFrom resolve (index + 1) rest

/-- Resolves every value; the error of a single value has no position. -/
def resolveEach (resolve : Document → Except Error Document) :
    List Document → Except Error (List Document)
  | [] => .error (.ofCause .noInputValues)
  | [v] => (fun w => [w]) <$> resolve v
  | values => resolveFrom resolve 0 values

def multiply (multiplier : Int64) (value : Document) : Except Error Document :=
  match value.asInt? with
  | none => .error (.ofCause .nonNumericInput)
  | some n =>
    let product := n.toInt * multiplier.toInt
    if Decimal.inInt64 product then .ok (.int (.ofInt product))
    else .error (.ofCause (.mathOverflow n multiplier))

def lookUp (pairs : TextMap) (value : Document) : Except Error Document :=
  match value with
  | .string key =>
    match pairs.find? key with
    | some mapped => .ok (.string mapped)
    | none => .error (.ofCause (.keyNotFound key))
  | other => .error (.ofCause (.unsupportedMapInput other.kindName))

/-- One text of all the values. -/
def combineText (template : String) (values : List Document) : Document :=
  .string (Template.format template values)

/-- The values after one transform, its error without the transform's name. -/
def resolveBare : Transform → List Document → Except Error (List Document)
  | math none, _ => .error (.ofCause .noMultiplier)
  | math (some multiplier), values => resolveEach (multiply multiplier) values
  | map pairs, values => resolveEach (lookUp pairs) values
  | string template, values =>
    resolveEach (fun v => .ok (.string (Template.format template [v]))) values
  | convert target, values => resolveEach (Conversion.convert target) values
  | combine _, [] => .error (.ofCause .noInputValues)
  | combine (.string template), values => .ok [combineText template values]

def resolve (transform : Transform) (values : List Document) : Except Error (List Document) :=
  (transform.resolveBare values).mapError (Error.within (.resolver transform.typeName))

/-- The values after the transforms, the first of which has the given position in its chain. -/
def runFrom : (index : Nat) → List Transform → List Document → Except Error (List Document)
  | _, [], values => .ok values
  | index, transform :: rest, values =>
    match transform.resolve values with
    | .error e => .error (e.within (.transform index))
    | .ok next => runFrom (index + 1) rest next

/-- The one value that a chain of transforms makes of the given ones. -/
def run (chain : List Transform) (values : List Document) : Except Error Document :=
  match runFrom 0 chain values with
  | .error e => .error e
  | .ok [value] => .ok value
  | .ok [] => .error (.ofCause .noInputValues)
  | .ok several => .error (.ofCause (.combineRequired several.length))

end ResourceLoom.Transform
