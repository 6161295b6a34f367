import ResourceLoom.Reader.Yaml.Tree

/-! # Reading YAML

The part of YAML that compositions are written in: block mappings and sequences by indentation, flow
lists and mappings, quoted and unquoted scalars, comments, and markers around the document. There
are no anchors, tags, directives, block texts or further documents.
-/
namespace ResourceLoom.Yaml

/-- How deep documents may be nested to be decoded. -/
def depthLimit : Nat := 128

/-- The one document of a text; nothing at all is an absent node. -/
def read? (text : String) : Option Node := do
  let cs := text.toList
  if cs.all isAllowed then document? (← tokens? (withFeeds cs)) else none

end ResourceLoom.Yaml
