import ResourceLoom.Proofs.LosslessEncoding
import ResourceLoom.Wire.Composition
import ResourceLoom.Wire.Path

/-! # Round trips of the wire format

Every composition, every render configuration and every path is read back from its written form as
it was. The proofs follow the encoders: each structure lists its keys in the order in which they are
written, and says for each of them how the field is read.
-/
namespace ResourceLoom.Wire

theorem nonneg_toInt64 {position : UInt64} (h : ¬ Decimal.signedBound ≤ position.toNat) :
    0 ≤ position.toInt64 := by
  have small : position.toNat < 2 ^ 63 := Nat.not_le.1 h
  have same : position.toInt64 = Int64.ofNat position.toNat := by
    rw [← UInt64.toInt64_ofNat', UInt64.ofNat_toNat]
  rw [Int64.le_iff_toInt_le, same, Int64.toInt_ofNat_of_lt small]
  exact Int.natCast_nonneg _

theorem lossless_segment : Lossless encodeSegment segment := by
  intro s
  cases s with
  | field name => rfl
  | index position =>
    by_cases beyond : Decimal.signedBound ≤ position.toNat
    · rw [encodeSegment, dif_pos beyond]
      rfl
    · simp [encodeSegment, beyond, segment, Document.int, Node.layer, nonneg_toInt64 beyond]

theorem lossless_path : Lossless encodePath path := lossless_segment.list

theorem lossless_kind : Lossless encodeKind kind :=
  lossless_oneOf fun kind => by cases kind <;> rfl

theorem lossless_multiplier : Lossless encodeMultiplier multiplier := fun value =>
  struct_of_reads ["multiply"] (by decide)
    (.ofOption rfl rfl lossless_integer nofun (.nil value))

theorem lossless_template : Lossless encodeTemplate template := fun value =>
  struct_of_reads ["fmt"] (by decide) (.ofEntry rfl (lossless_text value) (.nil value))

theorem lossless_target : Lossless encodeTarget target := fun value =>
  struct_of_reads ["toType"] (by decide) (.ofEntry rfl (lossless_kind value) (.nil value))

theorem lossless_combine : Lossless encodeCombine combine := by
  intro how
  cases how with
  | string value =>
    have type := lossless_text (Combine.string value).typeName
    exact made_of_struct (struct_of_reads ["string", "type"] (by decide)
      (.ofEntry rfl (lossless_template.option nofun) (.ofEntry rfl type (.nil _)))) rfl

theorem lossless_transform : Lossless encodeTransform transform := by
  intro step
  have type := lossless_text step.typeName
  cases step with
  | math value =>
    exact made_of_struct (struct_of_reads ["math", "type"] (by decide)
      (.ofEntry rfl (lossless_multiplier.option nofun) (.ofEntry rfl type (.nil _)))) rfl
  | map pairs =>
    exact made_of_struct (struct_of_reads ["map", "type"] (by decide)
      (.ofEntry rfl (lossless_textMap.option nofun) (.ofEntry rfl type (.nil _)))) rfl
  | string value =>
    exact made_of_struct (struct_of_reads ["string", "type"] (by decide)
      (.ofEntry rfl (lossless_template.option nofun) (.ofEntry rfl type (.nil _)))) rfl
  | convert kind =>
    exact made_of_struct (struct_of_reads ["convert", "type"] (by decide)
      (.ofEntry rfl (lossless_target.option nofun) (.ofEntry rfl type (.nil _)))) rfl
  | combine how =>
    have given : encodeCombine how ≠ .null := by cases how; exact nofun
    exact made_of_struct (struct_of_reads ["combine", "type"] (by decide)
      (.ofEntry rfl (lossless_combine.option given) (.ofEntry rfl type (.nil _)))) rfl

theorem lossless_patchType : Lossless encodePatchType patchType := by
  intro type
  cases type <;> rfl

theorem lossless_patch : Lossless encodePatch patch := by
  intro p
  refine struct_of_reads ["fromFieldPath", "fromMultipleFieldPaths", "patchSetName", "toFieldPath",
    "transforms", "type"] (by decide) ?_
  simp only [List.append_assoc]
  refine .ofOption rfl rfl lossless_text nofun ?_
  refine .ofList rfl rfl lossless_text ?_
  refine .ofOption rfl rfl lossless_text nofun ?_
  refine .ofOption rfl rfl lossless_text nofun ?_
  refine .ofList rfl rfl lossless_transform ?_
  exact .ofEntry rfl (lossless_patchType p.type) (.nil p)

theorem lossless_renderConfig : Lossless encodeRenderConfig renderConfig := fun config =>
  struct_of_reads ["patchTypes"] (by decide)
    (.ofEntry rfl (lossless_patchType.list config.patchTypes) (.nil config))

theorem lossless_typeReference : Lossless encodeTypeReference typeReference := by
  intro reference
  refine struct_of_reads ["apiVersion", "kind"] (by decide) ?_
  simp only [List.append_assoc]
  refine .ofEntry rfl (lossless_text reference.apiVersion) ?_
  exact .ofEntry rfl (lossless_text reference.kind) (.nil reference)

theorem lossless_patchSet : Lossless encodePatchSet patchSet := by
  intro set
  refine struct_of_reads ["name", "patches"] (by decide) ?_
  simp only [List.append_assoc]
  refine .ofEntry rfl (lossless_text set.name) ?_
  exact .ofEntry rfl (lossless_patch.list set.patches) (.nil set)

theorem lossless_readinessCheckType :
    Lossless (fun type => .string (ReadinessCheckType.name type)) readinessCheckType :=
  lossless_oneOf fun type => by cases type <;> rfl

theorem lossless_readinessCheck : Lossless encodeReadinessCheck readinessCheck := by
  intro check
  refine struct_of_reads ["fieldPath", "matchInteger", "matchString", "type"] (by decide) ?_
  simp only [List.append_assoc]
  refine .ofOption rfl rfl lossless_text nofun ?_
  refine .ofEntry rfl (lossless_integer check.matchInteger) ?_
  refine .ofOmitted rfl (fun empty => ?_) (lossless_text check.matchString) ?_
  · rw [String.isEmpty_iff.1 empty]
    rfl
  · exact .ofEntry rfl (lossless_readinessCheckType check.type) (.nil check)

theorem lossless_connectionDetailType :
    Lossless (fun type => .string (ConnectionDetailType.name type)) connectionDetailType :=
  lossless_oneOf fun type => by cases type <;> rfl

theorem lossless_connectionDetail : Lossless encodeConnectionDetail connectionDetail := by
  intro detail
  refine struct_of_reads ["fromConnectionSecretKey", "fromFieldPath", "name", "type", "value"]
    (by decide) ?_
  simp only [List.append_assoc]
  refine .ofOption rfl rfl lossless_text nofun ?_
  refine .ofOption rfl rfl lossless_text nofun ?_
  refine .ofOption rfl rfl lossless_text nofun ?_
  refine .ofOption rfl rfl lossless_connectionDetailType nofun ?_
  exact .ofOption rfl rfl lossless_text nofun (.nil detail)

/-- The base may be any document. It is a field that has to be present, so even null is kept. -/
theorem lossless_composedTemplate : Lossless encodeComposedTemplate composedTemplate := by
  intro template
  refine struct_of_reads ["base", "connectionDetails", "name", "patches", "readinessChecks"]
    (by decide) ?_
  simp only [List.append_assoc]
  refine .ofEntry rfl (lossless_document template.base) ?_
  refine .ofList rfl rfl lossless_connectionDetail ?_
  refine .ofOption rfl rfl lossless_text nofun ?_
  refine .ofList rfl rfl lossless_patch ?_
  exact .ofList rfl rfl lossless_readinessCheck (.nil template)

theorem lossless_compositionSpec : Lossless encodeCompositionSpec compositionSpec := by
  intro spec
  refine struct_of_reads ["compositeTypeRef", "patchSets", "resources",
    "writeConnectionSecretsToNamespace"] (by decide) ?_
  simp only [List.append_assoc]
  refine .ofEntry rfl (lossless_typeReference spec.compositeTypeRef) ?_
  refine .ofList rfl rfl lossless_patchSet ?_
  refine .ofEntry rfl (lossless_composedTemplate.list spec.resources) ?_
  exact .ofOption rfl rfl lossless_text nofun (.nil spec)

theorem lossless_objectMeta : Lossless encodeObjectMeta objectMeta := by
  intro data
  refine struct_of_reads ["annotations", "labels", "name"] (by decide) ?_
  simp only [List.append_assoc]
  refine .ofTexts rfl rfl ?_
  refine .ofTexts rfl rfl ?_
  exact .ofOption rfl rfl lossless_text nofun (.nil data)

theorem lossless_composition : Lossless encodeComposition composition := by
  intro value
  refine struct_of_reads ["apiVersion", "kind", "metadata", "spec"] (by decide) ?_
  simp only [List.append_assoc]
  refine .ofEntry rfl (lossless_text value.apiVersion) ?_
  refine .ofEntry rfl (lossless_text value.kind) ?_
  refine .ofEntry rfl (lossless_objectMeta value.metadata) ?_
  exact .ofEntry rfl (lossless_compositionSpec value.spec) (.nil value)

/-- Compositions, render configurations and paths are decoded from what they are encoded to. -/
theorem written_forms_lossless :
    (∀ value : Composition, composition (.whole (encodeComposition value)) = .ok value) ∧
    (∀ config : RenderConfig, renderConfig (.whole (encodeRenderConfig config)) = .ok config) ∧
    ∀ segments : Path, path (.whole (encodePath segments)) = .ok segments :=
  ⟨lossless_composition, lossless_renderConfig, lossless_path⟩

/-- A multiplication without its multiplier is still written with a configuration. -/
example : encodeTransform (.math none) =
    .object [("math", .object []), ("type", .string "math")] := rfl

end ResourceLoom.Wire
