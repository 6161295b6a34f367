import ResourceLoom.Patch.Selection
import ResourceLoom.Wire.Transform

/-! # Written patches

Patches with their transforms, and the selections of patch types.
-/
namespace ResourceLoom.Wire

def patchType : Decoder PatchType := fun node => do
  let name ← text node
  match PatchType.ofName? name with
  | some type => .ok type
  | none => .error (.refused (.invalidPatchType name))

def encodePatchType (type : PatchType) : Document := .string type.name

def patch : Decoder Patch := struct (Patch.blank .fromComposite) [
  optional "type" patchType fun value patch => { patch with type := value },
  optional "fromFieldPath" (option text) fun value patch => { patch with fromFieldPath := value },
  optional "fromMultipleFieldPaths" (list text) fun value patch =>
    { patch with fromMultipleFieldPaths := value },
  optional "toFieldPath" (option text) fun value patch => { patch with toFieldPath := value },
  optional "patchSetName" (option text) fun value patch => { patch with patchSetName := value },
  optional "transforms" (list transform) fun value patch => { patch with transforms := value }]

def encodePatch (patch : Patch) : Document :=
  .object (entryOfSome "fromFieldPath" .string patch.fromFieldPath ++
    entries "fromMultipleFieldPaths" .string patch.fromMultipleFieldPaths ++
    entryOfSome "patchSetName" .string patch.patchSetName ++
    entryOfSome "toFieldPath" .string patch.toFieldPath ++
    entries "transforms" encodeTransform patch.transforms ++
    entry "type" (encodePatchType patch.type))

def renderConfig : Decoder RenderConfig := struct .empty [
  optional "patchTypes" (list patchType) fun value _ => ⟨value⟩]

def encodeRenderConfig (config : RenderConfig) : Document :=
  .object (entry "patchTypes" (.array (config.patchTypes.map encodePatchType)))

end ResourceLoom.Wire
