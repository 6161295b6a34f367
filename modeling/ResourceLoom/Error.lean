import ResourceLoom.Decimal.Numeral
import ResourceLoom.Document.Format
import ResourceLoom.Document.Kind
import ResourceLoom.Path.Error

/-! # Errors

An error is a cause with the places that it was met at, from the outermost inwards: a position in a
list of patches, transforms, values, readiness checks or connection details, or a named transform.
Each cause belongs to one class, which the places do not change.
-/
namespace ResourceLoom

inductive LoadError where
  | unreadable
  | unparsable (format : Format)
  | emptyDocument
deriving DecidableEq, Repr

/-- Why a string does not convert to another kind. -/
inductive ConversionFault where
  | integer (fault : Decimal.IntegerFault)
  | float (fault : Decimal.FloatFault)
  | notFinite
  | notBool
deriving DecidableEq, Repr

inductive Cause where
  | nestedPatchSet (patchSet : String)
  | requiredField (field owner : String)
  | undefinedPatchSet (name : String)
  | kindChanged (before after : String)
  | controllerConflict (composed kind name uid : String)
  | invalidPatchType (type : String)
  | unsupportedTransformType (type : String)
  | unsupportedCombineType (type : String)
  | configMissing (type : String)
  | noMultiplier
  | nonNumericInput
  | mathOverflow (value multiplier : Int64)
  | unsupportedMapInput (kind : String)
  | keyNotFound (key : String)
  | unsupportedInputKind (kind : String)
  | unsupportedConversion (source target : Kind)
  | parseFailed (input : String) (target : Kind) (fault : ConversionFault)
  | noInputValues
  | combineRequired (count : Nat)
  | path (error : PathError)
  | load (error : LoadError)
deriving DecidableEq, Repr

inductive Place where
  | value (index : Nat)
  | resolver (name : String)
  | transform (index : Nat)
  | patch (index : Nat)
  | readinessCheck (index : Nat)
  | connectionDetail (index : Nat)
deriving DecidableEq, Repr

structure Error where
  places : List Place
  cause : Cause
deriving DecidableEq, Repr

/-- What a caller may decide by, whatever the cause in detail. -/
inductive ErrorClass | validation | unsupportedType | resolution | combineRequired | document
deriving DecidableEq, Repr

def LoadError.message : LoadError → String
  | unreadable => "failed to read file"
  | unparsable .json => "JSON parse error"
  | unparsable .yaml => "YAML parse error"
  | unparsable .toml => "TOML parse error"
  | emptyDocument => "invalid document: document is empty"

def ConversionFault.message : ConversionFault → String
  | integer fault => fault.message
  | float fault => fault.message
  | notFinite => "value is not finite"
  | notBool => "invalid syntax"

namespace Cause

def message : Cause → String
  | nestedPatchSet name => s!"a patch in PatchSet {name} cannot be of type PatchSet"
  | requiredField field owner => s!"{field} is required by type {owner}"
  | undefinedPatchSet name => s!"cannot find PatchSet by name {name}"
  | kindChanged before after =>
    s!"cannot change the kind of a composed resource from {before} to {after}"
  | controllerConflict composed kind name uid =>
    s!"cannot set controller reference: {composed} is already controlled by " ++
      s!"{kind} {name} (UID {uid})"
  | invalidPatchType type => s!"patch type {type} is unsupported"
  | unsupportedTransformType type => s!"transform type {type} is not supported"
  | unsupportedCombineType type => s!"combine type {type} is not supported"
  | configMissing type => s!"given type {type} requires configuration"
  | noMultiplier => "no multiplier is given"
  | nonNumericInput => "input is required to be a number for math transformer"
  | mathOverflow value multiplier =>
    s!"multiplying {value} by {multiplier} overflows a 64-bit integer"
  | unsupportedMapInput kind => s!"type {kind} is not supported for map transform"
  | keyNotFound key => s!"key {key} is not found in map"
  | unsupportedInputKind kind => s!"input type {kind} is not supported"
  | unsupportedConversion source target =>
    s!"conversion from {source.name} to {target.name} is not supported"
  | parseFailed input target fault =>
    s!"cannot convert {Text.quoted input} to {target.name}: {fault.message}"
  | noInputValues => "no input values"
  | combineRequired _ => "multiple output values returned - please add a combine transform"
  | path error => error.message
  | load error => error.message

def errorClass : Cause → ErrorClass
  | nestedPatchSet _ | requiredField _ _ | undefinedPatchSet _ | kindChanged _ _
  | controllerConflict _ _ _ _ => .validation
  | invalidPatchType _ | unsupportedTransformType _ | unsupportedCombineType _
  | configMissing _ => .unsupportedType
  | combineRequired _ => .combineRequired
  | path (.typeMismatch _ _ _) => .resolution
  | path _ | load _ => .document
  | noMultiplier | nonNumericInput | mathOverflow _ _ | unsupportedMapInput _ | keyNotFound _
  | unsupportedInputKind _ | unsupportedConversion _ _ | parseFailed _ _ _
  | noInputValues => .resolution

end Cause

/-- How a message begins for what happened at a place. -/
def Place.message : Place → String
  | value index => s!"could not resolve input value at index {index}: "
  | resolver name => s!"{name} transform could not resolve: "
  | transform index => s!"transform at index {index} returned error: "
  | patch index => s!"cannot apply the patch at index {index}: "
  | readinessCheck index => s!"cannot evaluate readiness check at index {index}: "
  | connectionDetail index => s!"cannot extract connection detail at index {index}: "

namespace Error

def ofCause (cause : Cause) : Error := ⟨[], cause⟩

def ofPath (error : PathError) : Error := ofCause (.path error)

/-- The same error, met at one more place around it. -/
def within (place : Place) (error : Error) : Error := ⟨place :: error.places, error.cause⟩

def message (error : Error) : String :=
  String.join (error.places.map Place.message) ++ error.cause.message

/-- The error without its places. -/
def root (error : Error) : Error := ofCause error.cause

def errorClass (error : Error) : ErrorClass := error.cause.errorClass

end Error
end ResourceLoom
