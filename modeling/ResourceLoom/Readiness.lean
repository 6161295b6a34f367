import ResourceLoom.Document.Access
import ResourceLoom.Error

/-! # Readiness of a composed document

Checks are evaluated in order up to the first that fails or does not pass. An absent field does not
pass, and a field of another kind than the check compares with is an error. Without any checks the
document itself has to report a ready condition.
-/
namespace ResourceLoom

inductive ReadinessCheckType where
  | always
  | nonEmpty
  | matchString
  | matchInteger
deriving DecidableEq, Repr

namespace ReadinessCheckType

def all : List ReadinessCheckType := [.always, .nonEmpty, .matchString, .matchInteger]

def name : ReadinessCheckType → String
  | always => "None"
  | nonEmpty => "NonEmpty"
  | matchString => "MatchString"
  | matchInteger => "MatchInteger"

end ReadinessCheckType

structure ReadinessCheck where
  type : ReadinessCheckType
  fieldPath : Option String
  matchString : String
  matchInteger : Int64
deriving DecidableEq, Repr

namespace ReadinessCheck

def blank (type : ReadinessCheckType) : ReadinessCheck := ⟨type, none, "", 0⟩

def ofNonEmpty (path : String) : ReadinessCheck :=
  { blank .nonEmpty with fieldPath := some path }

def ofString (path value : String) : ReadinessCheck :=
  { blank .matchString with fieldPath := some path, matchString := value }

def ofInteger (path : String) (value : Int64) : ReadinessCheck :=
  { blank .matchInteger with fieldPath := some path, matchInteger := value }

/-- Whether the value at a path passes. -/
def judge (check : ReadinessCheck) (composed : Document) (path : String) : Except PathError Bool :=
  match check.type with
  | .always => .ok true
  | .nonEmpty => (fun _ => true) <$> composed.valueAt path
  | .matchString => (· == check.matchString) <$> composed.stringAt path
  | .matchInteger => (· == check.matchInteger) <$> composed.integerAt path

def isReady (check : ReadinessCheck) (composed : Document) : Except Error Bool :=
  if check.type = .always then .ok true
  else match check.fieldPath with
    | none => .error (.ofCause (.requiredField "fieldPath" check.type.name))
    | some path =>
      match check.judge composed path with
      | .ok passed => .ok passed
      | .error (.notFound _) => .ok false
      | .error e => .error (.ofPath e)

/-- Whether all checks pass, the first of which has the given position. -/
def allReadyFrom (composed : Document) : (index : Nat) → List ReadinessCheck → Except Error Bool
  | _, [] => .ok true
  | index, check :: rest =>
    match check.isReady composed with
    | .error e => .error (e.within (.readinessCheck index))
    | .ok false => .ok false
    | .ok true => allReadyFrom composed (index + 1) rest

/-- A condition of type `Ready` with status `True`. -/
def isReadyCondition (condition : Document) : Bool :=
  condition.textField "type" == "Ready" && condition.textField "status" == "True"

def hasReadyCondition (composed : Document) : Bool :=
  match (composed.at? ["status", "conditions"]).bind Document.asArray? with
  | some conditions => conditions.any isReadyCondition
  | none => false

def allReady (checks : List ReadinessCheck) (composed : Document) : Except Error Bool :=
  if checks = [] then .ok (hasReadyCondition composed) else allReadyFrom composed 0 checks

end ReadinessCheck
end ResourceLoom
