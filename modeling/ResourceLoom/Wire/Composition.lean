import ResourceLoom.Composition.Basic
import ResourceLoom.Wire.Patch

/-! # Written compositions

Compositions with all their parts: type references, metadata, sets of patches, templates, connection
details and readiness checks.
-/
namespace ResourceLoom.Wire

def typeReference : Decoder TypeReference := struct .blank [
  needed "apiVersion" text fun value reference => { reference with apiVersion := value },
  needed "kind" text fun value reference => { reference with kind := value }]

def encodeTypeReference (reference : TypeReference) : Document :=
  .object (entry "apiVersion" (.string reference.apiVersion) ++
    entry "kind" (.string reference.kind))

def patchSet : Decoder PatchSet := struct ⟨"", []⟩ [
  needed "name" text fun value set => { set with name := value },
  optional "patches" (list patch) fun value set => { set with patches := value }]

def encodePatchSet (set : PatchSet) : Document :=
  .object (entry "name" (.string set.name) ++
    entry "patches" (.array (set.patches.map encodePatch)))

def readinessCheckType : Decoder ReadinessCheckType :=
  oneOf ReadinessCheckType.all ReadinessCheckType.name

def readinessCheck : Decoder ReadinessCheck := struct (.blank .nonEmpty) [
  needed "type" readinessCheckType fun value check => { check with type := value },
  optional "fieldPath" (option text) fun value check => { check with fieldPath := value },
  optional "matchString" text fun value check => { check with matchString := value },
  optional "matchInteger" integer fun value check => { check with matchInteger := value }]

def encodeReadinessCheck (check : ReadinessCheck) : Document :=
  .object (entryOfSome "fieldPath" .string check.fieldPath ++
    entry "matchInteger" (.int check.matchInteger) ++
    (if check.matchString.isEmpty then [] else entry "matchString" (.string check.matchString)) ++
    entry "type" (.string check.type.name))

def connectionDetailType : Decoder ConnectionDetailType :=
  oneOf ConnectionDetailType.all ConnectionDetailType.name

def connectionDetail : Decoder ConnectionDetail := struct .blank [
  optional "name" (option text) fun value detail => { detail with name := value },
  optional "type" (option connectionDetailType) fun value detail => { detail with type := value },
  optional "fromConnectionSecretKey" (option text) fun value detail =>
    { detail with fromConnectionSecretKey := value },
  optional "fromFieldPath" (option text) fun value detail => { detail with fromFieldPath := value },
  optional "value" (option text) fun value detail => { detail with value := value }]

def encodeConnectionDetail (detail : ConnectionDetail) : Document :=
  .object (entryOfSome "fromConnectionSecretKey" .string detail.fromConnectionSecretKey ++
    entryOfSome "fromFieldPath" .string detail.fromFieldPath ++
    entryOfSome "name" .string detail.name ++
    entryOfSome "type" (fun type => .string type.name) detail.type ++
    entryOfSome "value" .string detail.value)

def composedTemplate : Decoder ComposedTemplate := struct (.ofBase .null) [
  optional "name" (option text) fun value template => { template with name := value },
  needed "base" document fun value template => { template with base := value },
  optional "patches" (list patch) fun value template => { template with patches := value },
  optional "connectionDetails" (list connectionDetail) fun value template =>
    { template with connectionDetails := value },
  optional "readinessChecks" (list readinessCheck) fun value template =>
    { template with readinessChecks := value }]

def encodeComposedTemplate (template : ComposedTemplate) : Document :=
  .object (entry "base" template.base ++
    entries "connectionDetails" encodeConnectionDetail template.connectionDetails ++
    entryOfSome "name" .string template.name ++
    entries "patches" encodePatch template.patches ++
    entries "readinessChecks" encodeReadinessCheck template.readinessChecks)

def compositionSpec : Decoder CompositionSpec := struct .blank [
  needed "compositeTypeRef" typeReference fun value spec => { spec with compositeTypeRef := value },
  optional "patchSets" (list patchSet) fun value spec => { spec with patchSets := value },
  optional "resources" (list composedTemplate) fun value spec => { spec with resources := value },
  optional "writeConnectionSecretsToNamespace" (option text) fun value spec =>
    { spec with writeConnectionSecretsToNamespace := value }]

def encodeCompositionSpec (spec : CompositionSpec) : Document :=
  .object (entry "compositeTypeRef" (encodeTypeReference spec.compositeTypeRef) ++
    entries "patchSets" encodePatchSet spec.patchSets ++
    entry "resources" (.array (spec.resources.map encodeComposedTemplate)) ++
    entryOfSome "writeConnectionSecretsToNamespace" .string spec.writeConnectionSecretsToNamespace)

def objectMeta : Decoder ObjectMeta := struct .blank [
  optional "name" (option text) fun value data => { data with name := value },
  optional "labels" textMap fun value data => { data with labels := value },
  optional "annotations" textMap fun value data => { data with annotations := value }]

def encodeObjectMeta (data : ObjectMeta) : Document :=
  .object (textEntries "annotations" data.annotations ++
    textEntries "labels" data.labels ++
    entryOfSome "name" .string data.name)

def composition : Decoder Composition := struct .blank [
  optional "apiVersion" text fun value composition => { composition with apiVersion := value },
  optional "kind" text fun value composition => { composition with kind := value },
  optional "metadata" objectMeta fun value composition => { composition with metadata := value },
  optional "spec" compositionSpec fun value composition => { composition with spec := value }]

def encodeComposition (composition : Composition) : Document :=
  .object (entry "apiVersion" (.string composition.apiVersion) ++
    entry "kind" (.string composition.kind) ++
    entry "metadata" (encodeObjectMeta composition.metadata) ++
    entry "spec" (encodeCompositionSpec composition.spec))

end ResourceLoom.Wire
