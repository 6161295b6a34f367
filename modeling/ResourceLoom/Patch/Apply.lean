import ResourceLoom.Document.Write
import ResourceLoom.Patch.Basic
import ResourceLoom.Transform.Resolve

/-! # Applying patches

A patch first works out from its source what it writes and where. Only then is the destination
touched, by a single write. An absent source makes the patch write nothing.
-/
namespace ResourceLoom

/-- The two documents that a patch works on. -/
structure Documents where
  composite : Document
  composed : Document
deriving DecidableEq

/-- Typed values as documents. -/
structure Codec (α : Type) where
  encode : α → Except PathError Document
  decode : Document → Except PathError α

namespace Patch

def required {α : Type} (patch : Patch) (field : String) : Option α → Except Error α
  | some value => .ok value
  | none => .error (.ofCause (.requiredField field patch.type.name))

/-- The values at the paths in their order; none as soon as one is absent. -/
def readAll (source : Document) : List String → Except PathError (Option (List Document))
  | [] => .ok (some [])
  | text :: rest =>
    match source.lookup text with
    | .error e => .error e
    | .ok none => .ok none
    | .ok (some value) => (Option.map (value :: ·)) <$> readAll source rest

/-- The write of a patch: the path and the value that the transforms make of the inputs. -/
def output (patch : Patch) (path : String) :
    Except PathError (Option (List Document)) → Except Error (Option (String × Document))
  | .error e => .error (.ofPath e)
  | .ok none => .ok none
  | .ok (some inputs) => (fun value => some (path, value)) <$> Transform.run patch.transforms inputs

/-- What a patch with one source writes. -/
def planSingle (patch : Patch) (source : Document) : Except Error (Option (String × Document)) := do
  let path ← patch.required "fromFieldPath" patch.fromFieldPath
  patch.output (patch.toFieldPath.getD path) (readAll source [path])

/-- What a patch with several sources writes. -/
def planMultiple (patch : Patch) (source : Document) :
    Except Error (Option (String × Document)) := do
  let paths ← patch.required "fromMultipleFieldPaths"
    (if patch.fromMultipleFieldPaths = [] then none else some patch.fromMultipleFieldPaths)
  let path ← patch.required "toFieldPath" patch.toFieldPath
  patch.output path (readAll source paths)

/-- The destination after a planned write. -/
def carryOut (target : Document) :
    Except Error (Option (String × Document)) → Outcome Error Document
  | .error e => .fail e target
  | .ok none => .done target
  | .ok (some (path, value)) => (target.write path value).mapError .ofPath

/-- Whether a list of types selects a patch; the empty list selects all. -/
def selected (only : List PatchType) (patch : Patch) : Bool := only.isEmpty || patch.type ∈ only

def apply (patch : Patch) (only : List PatchType) (documents : Documents) :
    Outcome Error Documents :=
  if !patch.selected only then .done documents
  else match patch.type with
    | .fromComposite =>
      (carryOut documents.composed (patch.planSingle documents.composite)).onState
        fun composed => { documents with composed }
    | .toComposite =>
      (carryOut documents.composite (patch.planSingle documents.composed)).onState
        fun composite => { documents with composite }
    | .fromMultiple =>
      (carryOut documents.composed (patch.planMultiple documents.composite)).onState
        fun composed => { documents with composed }
    | .patchSet => .fail (.ofCause (.invalidPatchType patch.type.name)) documents

/-- Applies patches in order up to the first that fails; the first one has the given position. -/
def applyFrom (only : List PatchType) :
    (index : Nat) → List Patch → Documents → Outcome Error Documents
  | _, [], documents => .done documents
  | index, patch :: rest, documents =>
    ((patch.apply only documents).mapError (.within (.patch index))).andThen
      (applyFrom only (index + 1) rest)

variable {α β : Type}

/-- Applies a patch between typed values by way of their documents; only the one that the patch
writes to is read back. -/
def applyTyped (composites : Codec α) (composeds : Codec β) (patch : Patch) (only : List PatchType)
    (values : α × β) : Outcome Error (α × β) :=
  .ofExcept values do
    let composite ← (composites.encode values.1).mapError .ofPath
    let composed ← (composeds.encode values.2).mapError .ofPath
    let documents ← (patch.apply only ⟨composite, composed⟩).toExcept
    if patch.writesComposite then
      return (← (composites.decode documents.composite).mapError .ofPath, values.2)
    else
      return (values.1, ← (composeds.decode documents.composed).mapError .ofPath)

end Patch
end ResourceLoom
