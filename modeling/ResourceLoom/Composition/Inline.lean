import ResourceLoom.Composition.Basic
import ResourceLoom.Outcome

/-! # Inlining of patch sets

A patch of type `PatchSet` stands for the patches of the set that it names, and inlining puts them
in its place. No set may refer to another one, and of several sets with one name the last counts.
-/
namespace ResourceLoom

namespace CompositionSpec

/-- The first set that refers to a set. -/
def nestedSet? (spec : CompositionSpec) : Option PatchSet :=
  spec.patchSets.find? fun set => set.patches.any (·.type = .patchSet)

/-- The patches of the last set with a name. -/
def patchesOf? (spec : CompositionSpec) (name : String) : Option (List Patch) :=
  (spec.patchSets.reverse.find? (·.name == name)).map (·.patches)

/-- What a patch of a template stands for. -/
def expand (spec : CompositionSpec) (patch : Patch) : Except Error (List Patch) :=
  if patch.type ≠ .patchSet then .ok [patch]
  else match patch.patchSetName with
    | none => .error (.ofCause (.requiredField "patchSetName" PatchType.patchSet.name))
    | some name =>
      match spec.patchesOf? name with
      | some patches => .ok patches
      | none => .error (.ofCause (.undefinedPatchSet name))

def expandAll (spec : CompositionSpec) : List Patch → Except Error (List Patch)
  | [] => .ok []
  | patch :: rest => do
    let patches ← spec.expand patch
    return patches ++ (← spec.expandAll rest)

def expandTemplates (spec : CompositionSpec) :
    List ComposedTemplate → Except Error (List (List Patch))
  | [] => .ok []
  | template :: rest => do
    let patches ← spec.expandAll template.patches
    return patches :: (← spec.expandTemplates rest)

/-- The patches of each template with every reference replaced. -/
def templatePatches (spec : CompositionSpec) : Except Error (List (List Patch)) :=
  match spec.nestedSet? with
  | some set => .error (.ofCause (.nestedPatchSet set.name))
  | none => spec.expandTemplates spec.resources

/-- The templates with other patches. -/
def withPatches (spec : CompositionSpec) (patches : List (List Patch)) : CompositionSpec :=
  let resources :=
    spec.resources.zipWith (fun template patches => { template with patches }) patches
  { spec with resources }

def inlinePatchSets (spec : CompositionSpec) : Outcome Error CompositionSpec :=
  .ofExcept spec (spec.templatePatches.map spec.withPatches)

end CompositionSpec

def Composition.inlined (composition : Composition) : Except Error Composition :=
  composition.spec.inlinePatchSets.toExcept.map fun spec => { composition with spec }

end ResourceLoom
