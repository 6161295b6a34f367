import ResourceLoom.Transform.Basic
import ResourceLoom.Wire.Decode
import ResourceLoom.Wire.Encode

/-! # Written transforms

A transform is written with its type and, under the name of the type, its configuration. All the
configurations that are present have to be sound, and the one of the type has to be present.
-/
namespace ResourceLoom.Wire

def kind : Decoder Kind := oneOf Kind.all Kind.name

def encodeKind (kind : Kind) : Document := .string kind.name

def multiplier : Decoder (Option Int64) :=
  struct none [optional "multiply" (option integer) fun value _ => value]

def encodeMultiplier (value : Option Int64) : Document :=
  .object (entryOfSome "multiply" .int value)

/-- The template of a formatting step. -/
def template : Decoder String := struct "" [needed "fmt" text fun value _ => value]

def encodeTemplate (value : String) : Document := .object (entry "fmt" (.string value))

def target : Decoder Kind := struct .string [needed "toType" kind fun value _ => value]

def encodeTarget (value : Kind) : Document := .object (entry "toType" (encodeKind value))

structure CombineFields where
  type : String
  string : Option String

def Combine.ofFields (fields : CombineFields) : Except Fault Combine :=
  if fields.type = "string" then
    match fields.string with
    | some template => .ok (.string template)
    | none => .error (.refused (.configMissing "string"))
  else .error (.refused (.unsupportedCombineType fields.type))

def combine : Decoder Combine := fun node => do
  let fields ← struct (σ := CombineFields) ⟨"", none⟩ [
    needed "type" text fun value fields => { fields with type := value },
    optional "string" (option template) fun value fields => { fields with string := value }] node
  Combine.ofFields fields

def encodeCombine (how : Combine) : Document :=
  match how with
  | .string template => .object
      (entry "string" (encodeTemplate template) ++ entry "type" (.string how.typeName))

structure TransformFields where
  type : String
  math : Option (Option Int64)
  map : Option TextMap
  string : Option String
  convert : Option Kind
  combine : Option Combine

/-- The transform that a configuration makes, which its type requires. -/
def configured {α : Type} (type : String) (make : α → Transform) :
    Option α → Except Fault Transform
  | some config => .ok (make config)
  | none => .error (.refused (.configMissing type))

def Transform.ofFields (fields : TransformFields) : Except Fault Transform :=
  match fields.type with
  | "math" => configured "math" .math fields.math
  | "map" => configured "map" .map fields.map
  | "string" => configured "string" .string fields.string
  | "convert" => configured "convert" .convert fields.convert
  | "combine" => configured "combine" .combine fields.combine
  | other => .error (.refused (.unsupportedTransformType other))

def transform : Decoder Transform := fun node => do
  let fields ← struct (σ := TransformFields) ⟨"", none, none, none, none, none⟩ [
    needed "type" text fun value fields => { fields with type := value },
    optional "math" (option multiplier) fun value fields => { fields with math := value },
    optional "map" (option textMap) fun value fields => { fields with map := value },
    optional "string" (option template) fun value fields => { fields with string := value },
    optional "convert" (option target) fun value fields => { fields with convert := value },
    optional "combine" (option combine) fun value fields => { fields with combine := value }] node
  Transform.ofFields fields

/-- The configuration of a transform, without its type. -/
def encodeConfiguration : Transform → Document
  | .math multiplier => encodeMultiplier multiplier
  | .map pairs => encodeTexts pairs
  | .string template => encodeTemplate template
  | .convert target => encodeTarget target
  | .combine how => encodeCombine how

def encodeTransform (transform : Transform) : Document :=
  .object (entry transform.typeName (encodeConfiguration transform) ++
    entry "type" (.string transform.typeName))

end ResourceLoom.Wire
