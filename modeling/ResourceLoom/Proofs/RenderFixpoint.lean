import ResourceLoom.Proofs.RenderWrites

/-! # Renderings are fixpoints of reconciliation

A reconciliation renders a template onto what the last one left. When the selected patches read the
composite only, both renderings make the same writes on the base, and differ at most in the name and
the namespace with which it starts. These are what the first rendering left, after patches that may
have overwritten them, stepped into them or replaced the metadata around them.
-/
namespace ResourceLoom.ComposedTemplate

open Render (TypeKept seeded ownerReferencesPath)

variable {template : ComposedTemplate} {config : RenderConfig} {documents : Documents}

/-- When the selected patches read the composite, a rendering makes the same writes on the seeded
base for all documents that are composed from it. -/
theorem render_of_ok
    (reads : ∀ patch ∈ template.patches, patch.selected config.patchTypes = true →
      patch.ReadsComposite)
    (ok : (template.render config documents).result = .ok ()) :
    TypeKept template.base documents.composed ∧
      ∃ writes references, (ownerReferencesPath, .array references) ∈ writes ∧
        ∀ composed, TypeKept template.base composed →
          template.render config ⟨documents.composite, composed⟩ =
            .done ⟨documents.composite, (seeded template.base composed).putAll writes⟩ := by
  obtain ⟨composite, composed⟩ := documents
  obtain ⟨prepared, okPatches⟩ := Outcome.ok_of_andThen_ok ok
  have okPrepare : (template.prepare composite composed).result = .ok () :=
    congrArg Outcome.result prepared
  obtain ⟨kept, before, references, mem, prepare⟩ := Render.prepare_of_ok okPrepare
  obtain ⟨done, object⟩ := prepare composed kept
  rw [done] at okPatches
  obtain ⟨after, patched⟩ := Patch.applyFrom_of_objects reads object okPatches
  refine ⟨kept, before ++ after, references, List.mem_append_left after mem, fun x hx => ?_⟩
  obtain ⟨again, objectAgain⟩ := prepare x hx
  rw [render_of_prepare_done config again, patched _ objectAgain, Document.putAll_append]

/-- The writes absorb the name and the namespace that they left. One of them goes to the owner
references, and with it the metadata is an object whatever the base holds there. -/
theorem putAll_seeded_putAll {writes : List Write} {references : List Document}
    (mem : (ownerReferencesPath, .array references) ∈ writes) (base composed : Document) :
    (seeded base ((seeded base composed).putAll writes)).putAll writes =
      (seeded base composed).putAll writes := by
  have beside : ([.field "metadata"] ++ [.field "ownerReferences"], .array references) ∈ writes :=
    mem
  have differ : "name" ≠ "namespace" := by decide
  exact Document.putAll_reseed_fields differ (by decide) (by decide) beside base _ _ _ rfl

/-- Rendering a template onto its own result succeeds and changes neither document. -/
theorem render_fixpoint
    (reads : ∀ patch ∈ template.patches, patch.selected config.patchTypes = true →
      patch.ReadsComposite)
    (ok : (template.render config documents).result = .ok ())
    (sameType : ObjectType.of (template.render config documents).state.composed =
      ObjectType.of template.base) :
    template.render config
        ⟨documents.composite, (template.render config documents).state.composed⟩ =
      .done ⟨documents.composite, (template.render config documents).state.composed⟩ := by
  obtain ⟨kept, writes, references, mem, rendered⟩ := render_of_ok reads ok
  have first : template.render config documents =
      .done ⟨documents.composite, (seeded template.base documents.composed).putAll writes⟩ :=
    rendered documents.composed kept
  rw [first, Outcome.state_done] at sameType
  rw [first, Outcome.state_done, rendered _ (.inr sameType), putAll_seeded_putAll mem]

/-- A template whose patch steps into the name that the base has taken over. -/
def namedByPatch : ComposedTemplate :=
  { ofBase (.object [("apiVersion", .string "v1"), ("kind", .string "Bucket")]) with
    patches := [{ Patch.fromComposite "metadata.name" with
      toFieldPath := some "metadata.name.short" }] }

def siteDocuments : Documents where
  composite := .object [("metadata", .object [("name", .string "site"), ("uid", .string "7")])]
  composed := .object [("metadata", .object [("name", .string "site-1")])]

theorem render_fixpoint_namedByPatch :
    (namedByPatch.render .empty siteDocuments).result = .ok () ∧
    ObjectType.of (namedByPatch.render .empty siteDocuments).state.composed =
      ObjectType.of namedByPatch.base ∧
    namedByPatch.render .empty
        ⟨siteDocuments.composite, (namedByPatch.render .empty siteDocuments).state.composed⟩ =
      .done ⟨siteDocuments.composite,
        (namedByPatch.render .empty siteDocuments).state.composed⟩ := by
  have reads : ∀ patch ∈ namedByPatch.patches, patch.selected RenderConfig.empty.patchTypes = true →
      patch.ReadsComposite := by
    intro patch mem _
    rw [List.mem_singleton.1 mem]
    exact .inl rfl
  have ok : (namedByPatch.render .empty siteDocuments).result = .ok () := rfl
  have sameType : ObjectType.of (namedByPatch.render .empty siteDocuments).state.composed =
      ObjectType.of namedByPatch.base := rfl
  exact ⟨ok, sameType, render_fixpoint reads ok sameType⟩

end ResourceLoom.ComposedTemplate
