import ResourceLoom.Connection
import ResourceLoom.Patch.Basic
import ResourceLoom.Readiness

/-! # Compositions

The declarative description of how a composite resource is composed: named sets of patches, and a
template for each composed resource with its base document, patches, connection details and
readiness checks.
-/
namespace ResourceLoom

structure TypeReference where
  apiVersion : String
  kind : String
deriving DecidableEq, Repr

structure PatchSet where
  name : String
  patches : List Patch
deriving DecidableEq, Repr

structure ComposedTemplate where
  name : Option String
  base : Document
  patches : List Patch
  connectionDetails : List ConnectionDetail
  readinessChecks : List ReadinessCheck
deriving DecidableEq

structure CompositionSpec where
  compositeTypeRef : TypeReference
  patchSets : List PatchSet
  resources : List ComposedTemplate
  writeConnectionSecretsToNamespace : Option String
deriving DecidableEq

structure ObjectMeta where
  name : Option String
  labels : TextMap
  annotations : TextMap
deriving DecidableEq, Repr

structure Composition where
  apiVersion : String
  kind : String
  metadata : ObjectMeta
  spec : CompositionSpec
deriving DecidableEq

def TypeReference.blank : TypeReference := ⟨"", ""⟩

def ComposedTemplate.ofBase (base : Document) : ComposedTemplate := ⟨none, base, [], [], []⟩

def CompositionSpec.blank : CompositionSpec := ⟨.blank, [], [], none⟩

def ObjectMeta.blank : ObjectMeta := ⟨none, .empty, .empty⟩

def Composition.blank : Composition := ⟨"", "", .blank, .blank⟩

end ResourceLoom
