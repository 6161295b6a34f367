import ResourceLoom.Composition.Render
import ResourceLoom.Proofs.Outcomes

/-! # What passes from stage to stage of a rendering

A rendering has three stages: the base, the metadata and the patches. The base stage replaces the
composed document, of which it reads the identity only, and the later stages see what it leaves. So
two renderings of one template part in the base stage or nowhere.
-/
namespace ResourceLoom

/-- Two composed documents are of the same type and have the same name and namespace. -/
structure SameIdentity (a b : Document) : Prop where
  type : ObjectType.of a = ObjectType.of b
  name : a.at? ["metadata", "name"] = b.at? ["metadata", "name"]
  space : a.at? ["metadata", "namespace"] = b.at? ["metadata", "namespace"]

theorem Render.fromBase_congr {a b : Document} (same : SameIdentity a b) (base : Document) :
    fromBase base a = fromBase base b := by
  simp only [fromBase, same.type, same.name, same.space]

namespace ComposedTemplate

section Stages

variable {template : ComposedTemplate} (config : RenderConfig)
  {composite composed before : Document} {e : Error}

theorem prepare_of_fromBase_error (composite : Document)
    (refused : Render.fromBase template.base composed = .error e) :
    template.prepare composite composed = .fail e composed := by
  rw [prepare, Render.renderFromBase, refused, Outcome.ofExcept_error, Outcome.andThen_fail]

/-- Behind the base stage a rendering sees what that has made and not what was there before. -/
theorem prepare_of_fromBase_ok (composite : Document)
    (made : Render.fromBase template.base composed = .ok before) :
    template.prepare composite composed =
      Render.renderMetadata composite template.name before := by
  rw [prepare, Render.renderFromBase, made, Outcome.ofExcept_ok, Outcome.andThen_done]

theorem render_of_prepare_fail (stopped : template.prepare composite composed = .fail e before) :
    template.render config ⟨composite, composed⟩ = .fail e ⟨composite, before⟩ := by
  rw [render, stopped, Outcome.onState_fail, Outcome.andThen_fail]

theorem render_of_prepare_done (done : template.prepare composite composed = .done before) :
    template.render config ⟨composite, composed⟩ =
      Patch.applyFrom config.patchTypes 0 template.patches ⟨composite, before⟩ := by
  rw [render, done, Outcome.onState_done, Outcome.andThen_done]

theorem render_of_fromBase_error (composite : Document)
    (refused : Render.fromBase template.base composed = .error e) :
    template.render config ⟨composite, composed⟩ = .fail e ⟨composite, composed⟩ :=
  render_of_prepare_fail config (prepare_of_fromBase_error composite refused)

end Stages

/-- Renderings onto composed documents with one identity have the same result and leave the same
composite. They also leave the same composed document, unless the base stage refuses both documents
and so leaves each as it is. -/
theorem render_forgets_stale {a b : Document} (same : SameIdentity a b)
    (template : ComposedTemplate) (config : RenderConfig) (composite : Document) :
    (template.render config ⟨composite, a⟩).result =
        (template.render config ⟨composite, b⟩).result ∧
      (template.render config ⟨composite, a⟩).state.composite =
        (template.render config ⟨composite, b⟩).state.composite ∧
      ((Render.renderFromBase template.base a).result = .ok () →
        (template.render config ⟨composite, a⟩).state.composed =
          (template.render config ⟨composite, b⟩).state.composed) ∧
      ∀ e, (Render.renderFromBase template.base a).result = .error e →
        template.render config ⟨composite, a⟩ = .fail e ⟨composite, a⟩ ∧
          template.render config ⟨composite, b⟩ = .fail e ⟨composite, b⟩ := by
  have based : Render.fromBase template.base b = Render.fromBase template.base a :=
    (Render.fromBase_congr same template.base).symm
  rw [Render.renderFromBase]
  cases made : Render.fromBase template.base a with
  | error fault =>
    rw [render_of_fromBase_error config composite made,
      render_of_fromBase_error config composite (based.trans made)]
    refine ⟨rfl, rfl, nofun, ?_⟩
    rintro e ⟨⟩
    exact ⟨rfl, rfl⟩
  | ok before =>
    have first := prepare_of_fromBase_ok composite made
    have second := prepare_of_fromBase_ok composite (based.trans made)
    have equal : template.render config ⟨composite, a⟩ = template.render config ⟨composite, b⟩ := by
      simp only [render, first, second]
    rw [equal]
    exact ⟨rfl, rfl, fun _ => rfl, nofun⟩

/-- A bucket with a controller and a status from before. -/
def adoptedBucket : Document :=
  .object [("apiVersion", .string "v1"), ("kind", .string "Bucket"),
    ("metadata", .object [("name", .string "site-1"), ("ownerReferences", .array [
      .object [("controller", .bool true), ("uid", .string "8")]])]),
    ("status", .object [("ready", .bool true)])]

/-- A bucket of the same name with nothing else in it. -/
def freshBucket : Document :=
  .object [("apiVersion", .string "v1"), ("kind", .string "Bucket"),
    ("metadata", .object [("name", .string "site-1")])]

def site : Document := .object [("metadata", .object [("uid", .string "7")])]

/-- A template that reports the name of the bucket and then multiplies it. -/
def countedBucket : ComposedTemplate :=
  { ofBase (.object [("apiVersion", .string "v1"), ("kind", .string "Bucket")]) with
    patches := [
      { Patch.toComposite "metadata.name" with toFieldPath := some "status.bucket" },
      { Patch.fromComposite "status.bucket" with
        toFieldPath := some "spec.count", transforms := [.math (some 2)] }] }

theorem render_forgets_stale_adopted :
    SameIdentity adoptedBucket freshBucket ∧
      (countedBucket.render .empty ⟨site, adoptedBucket⟩).result =
        (countedBucket.render .empty ⟨site, freshBucket⟩).result ∧
      (countedBucket.render .empty ⟨site, adoptedBucket⟩).state.composite =
        (countedBucket.render .empty ⟨site, freshBucket⟩).state.composite ∧
      (countedBucket.render .empty ⟨site, adoptedBucket⟩).state.composed =
        (countedBucket.render .empty ⟨site, freshBucket⟩).state.composed := by
  have same : SameIdentity adoptedBucket freshBucket := ⟨rfl, rfl, rfl⟩
  obtain ⟨result, composite, composed, -⟩ := render_forgets_stale same countedBucket .empty site
  exact ⟨same, result, composite, composed rfl⟩

end ComposedTemplate
end ResourceLoom
