import ResourceLoom.Composition.Basic
import ResourceLoom.Patch.Apply
import ResourceLoom.Patch.Selection

/-! # Rendering composed documents

A rendering starts from the base of the template, which keeps the name and namespace that the
composed document had, goes on with the metadata that ties the composed resource to its composite,
and ends with the patches. A failing patch leaves the work of those before it.
-/
namespace ResourceLoom

/-- The type of an object: its `apiVersion` and `kind`. -/
structure ObjectType where
  apiVersion : String
  kind : String
deriving DecidableEq, Repr

namespace ObjectType

def of (document : Document) : ObjectType :=
  ⟨document.textField "apiVersion", document.textField "kind"⟩

def unknown : ObjectType := ⟨"", ""⟩

def describe (type : ObjectType) : String := s!"{type.apiVersion}, Kind={type.kind}"

end ObjectType

namespace Render

def fieldPath (names : List String) : Path := names.map .field

def namePath : Path := fieldPath ["metadata", "name"]
def namespacePath : Path := fieldPath ["metadata", "namespace"]
def generateNamePath : Path := fieldPath ["metadata", "generateName"]
def ownerReferencesPath : Path := fieldPath ["metadata", "ownerReferences"]
def labelPath (key : String) : Path := fieldPath ["metadata", "labels", key]
def annotationPath (key : String) : Path := fieldPath ["metadata", "annotations", key]

/-- The label that names the composite of a composed resource. -/
def compositeLabel : String := "crossplane.io/composite"

def claimNameLabel : String := "crossplane.io/claim-name"

def claimNamespaceLabel : String := "crossplane.io/claim-namespace"

/-- The annotation that names the template of a composed resource. -/
def resourceNameAnnotation : String := "crossplane.io/composition-resource-name"

/-- The document with a value written, when there is one. -/
def put (path : Path) (value : Option Document) (document : Document) : Except Error Document :=
  match value with
  | none => .ok document
  | some value => ((document.set path value).mapError Error.ofPath).toExcept

/-- The base with the name and namespace of the composed document. -/
def fromBase (base composed : Document) : Except Error Document :=
  let existing := ObjectType.of composed
  let rendered := ObjectType.of base
  if !base.isObject then .error (.ofPath (.notAnObject [.field "base"]))
  else if existing ≠ .unknown ∧ existing ≠ rendered then
    .error (.ofCause (.kindChanged existing.describe rendered.describe))
  else do
    let named ← put namePath (composed.at? ["metadata", "name"]) base
    put namespacePath (composed.at? ["metadata", "namespace"]) named

def renderFromBase (base composed : Document) : Outcome Error Document :=
  .ofExcept composed (fromBase base composed)

/-- The string at a path; none when it is absent or no string. -/
def textAt (document : Document) (path : Path) : Except Error (Option String) :=
  match document.find path with
  | .ok found => .ok (found.bind Document.asString?)
  | .error e => .error (.ofPath e)

/-- The reference by which a composed resource names its composite as its controller. -/
def controllerReference (composite : Document) (uid : String) : Except Error Document := do
  let apiVersion ← textAt composite (fieldPath ["apiVersion"])
  let kind ← textAt composite (fieldPath ["kind"])
  let name ← textAt composite namePath
  return .ofEntries [
    ("apiVersion", .string (apiVersion.getD "")),
    ("kind", .string (kind.getD "")),
    ("name", .string (name.getD "")),
    ("uid", .string uid),
    ("controller", .bool true),
    ("blockOwnerDeletion", .bool true)]

def isController (reference : Document) : Bool :=
  (reference.field? "controller").bind Document.asBool? == some true

/-- The references with the given one in place of the first of the same owner, or at the end. -/
def mergeReference (uid : String) (reference : Document) : List Document → List Document
  | [] => [reference]
  | r :: rest =>
    if r.textField "uid" = uid then reference :: rest else r :: mergeReference uid reference rest

def ownerReferences (composed : Document) : List Document :=
  ((composed.at? ["metadata", "ownerReferences"]).bind Document.asArray?).getD []

/-- The owner references with the composite as the controller, unless something else controls the
composed resource. -/
def claimControl (composite composed : Document) : Except Error (List Document) := do
  let uid := (← textAt composite (fieldPath ["metadata", "uid"])).getD ""
  let reference ← controllerReference composite uid
  let references := ownerReferences composed
  match references.find? fun r => isController r && r.textField "uid" != uid with
  | some controller =>
    let name := ((composed.at? ["metadata", "name"]).bind Document.asString?).getD ""
    .error (.ofCause (.controllerConflict name (controller.textField "kind")
      (controller.textField "name") (controller.textField "uid")))
  | none => return mergeReference uid reference references

/-- The composed document with one of the composite's labels, where the composite has it. -/
def copyLabel (composite : Document) (key : String) (composed : Document) :
    Except Error Document := do
  let value ← textAt composite (labelPath key)
  put (labelPath key) (value.map .string) composed

def withMetadata (composite : Document) (resourceName : Option String) (composed : Document) :
    Except Error Document := do
  let references ← claimControl composite composed
  let owner ← textAt composite (labelPath compositeLabel)
  let next ← put generateNamePath (owner.map fun name => .string (name ++ "-")) composed
  let next ← copyLabel composite compositeLabel next
  let next ← copyLabel composite claimNameLabel next
  let next ← copyLabel composite claimNamespaceLabel next
  let next ← put (annotationPath resourceNameAnnotation) (resourceName.map .string) next
  put ownerReferencesPath (some (.array references)) next

def renderMetadata (composite : Document) (resourceName : Option String) (composed : Document) :
    Outcome Error Document :=
  .ofExcept composed (withMetadata composite resourceName composed)

end Render

namespace ComposedTemplate

/-- The document of a composed resource before its patches. -/
def prepare (template : ComposedTemplate) (composite composed : Document) :
    Outcome Error Document :=
  (Render.renderFromBase template.base composed).andThen
    (Render.renderMetadata composite template.name)

def render (template : ComposedTemplate) (config : RenderConfig) (documents : Documents) :
    Outcome Error Documents :=
  ((template.prepare documents.composite documents.composed).onState
    fun composed => { documents with composed }).andThen
      (Patch.applyFrom config.patchTypes 0 template.patches)

end ComposedTemplate
end ResourceLoom
