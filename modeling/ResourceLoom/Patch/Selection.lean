import ResourceLoom.Patch.Basic
import ResourceLoom.Text.Blank

/-! # Selections of patch types

A render configuration lists the patch types that a rendering applies, each once and in the order
of first mention. The empty list stands for all types.
-/
namespace ResourceLoom

structure RenderConfig where
  patchTypes : List PatchType
deriving DecidableEq, Repr

namespace RenderConfig

def empty : RenderConfig := ⟨[]⟩

def insert (config : RenderConfig) (type : PatchType) : RenderConfig :=
  if type ∈ config.patchTypes then config else ⟨config.patchTypes ++ [type]⟩

def ofTypes (types : List PatchType) : RenderConfig := types.foldl insert empty

/-- The names in a text that commas separate, without blanks around them. -/
def names (text : String) : List String :=
  (Text.separated ',' text.toList).map fun part => .ofList (Text.trim part)

/-- The known types among the names in a text; other names are passed over. -/
def ofText (text : String) : RenderConfig := ofTypes ((names text).filterMap PatchType.ofName?)

end RenderConfig
end ResourceLoom
