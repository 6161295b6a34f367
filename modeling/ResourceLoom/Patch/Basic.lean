import ResourceLoom.Transform.Basic

/-! # Patches

A patch copies values between the composite document and a composed one. Its type says in which
direction, and whether it has one source or several; a patch of type `PatchSet` only stands for the
patches of a named set.
-/
namespace ResourceLoom

inductive PatchType where
  | fromComposite
  | fromMultiple
  | toComposite
  | patchSet
deriving DecidableEq, Repr

namespace PatchType

def all : List PatchType := [.fromComposite, .fromMultiple, .toComposite, .patchSet]

def name : PatchType → String
  | fromComposite => "FromCompositeFieldPath"
  | fromMultiple => "FromMultipleCompositeFieldPaths"
  | toComposite => "ToCompositeFieldPath"
  | patchSet => "PatchSet"

def ofName? (name : String) : Option PatchType := all.find? (·.name == name)

end PatchType

structure Patch where
  type : PatchType
  fromFieldPath : Option String
  fromMultipleFieldPaths : List String
  toFieldPath : Option String
  patchSetName : Option String
  transforms : List Transform
deriving DecidableEq, Repr

namespace Patch

def blank (type : PatchType) : Patch := ⟨type, none, [], none, none, []⟩

def fromComposite (path : String) : Patch :=
  { blank .fromComposite with fromFieldPath := some path }

def toComposite (path : String) : Patch :=
  { blank .toComposite with fromFieldPath := some path }

def fromMultiple (paths : List String) (target : String) : Patch :=
  { blank .fromMultiple with fromMultipleFieldPaths := paths, toFieldPath := some target }

/-- A reference to the set of patches with a name. -/
def ofSet (name : String) : Patch := { blank .patchSet with patchSetName := some name }

def writesComposite (patch : Patch) : Bool := patch.type = .toComposite

end Patch
end ResourceLoom
