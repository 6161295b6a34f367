import ResourceLoom.Proofs.PatchWrites
import ResourceLoom.Proofs.RenderStages
import ResourceLoom.Proofs.SeparateWrites

/-! # Renderings as sequences of writes

The stages before the patches are described by the writes that they make. The base takes over two
seeds, and the metadata stage makes the same writes on every object with the same owner references:
their values depend on the composite and on these references alone.
-/
namespace ResourceLoom

open Render (fieldPath)

namespace Document

variable {x : Document}

theorem field?_eq_child? (name : String) (x : Document) :
    x.field? name = x.child? (.field name) := by
  cases x <;> rfl

theorem at?_eq_reach (names : List String) (x : Document) :
    x.at? names = x.reach (fieldPath names) := by
  have absent (names : List String) :
      names.foldl (fun found name => found.bind (field? name)) none = none := by
    induction names with
    | nil => rfl
    | cons name rest ih => exact ih
  induction names generalizing x with
  | nil => rfl
  | cons name rest ih =>
    rw [at?, List.foldl_cons, Option.bind_some, field?_eq_child?, fieldPath, List.map_cons, reach]
    cases x.child? (.field name) with
    | none => exact absent rest
    | some c => exact ih c

theorem bounded_fieldPath (names : List String) : Path.Bounded (fieldPath names) := by
  simp [Path.Bounded, fieldPath]

theorem isObject_seed (hx : x.isObject = true) (name : String) (rest : Path)
    (v : Option Document) : (x.seed (.field name :: rest) v).isObject = true := by
  cases v with
  | none => exact hx
  | some v => exact isObject_put name rest v

end Document

namespace Render

variable {base composed composite x y : Document}

theorem put_of_object (hx : x.isObject = true) (name : String) (names : List String)
    (v : Option Document) :
    put (fieldPath (name :: names)) v x = .ok (x.seed (fieldPath (name :: names)) v) := by
  cases v with
  | none => rfl
  | some v =>
    have h : x.Writable (fieldPath (name :: names)) :=
      ⟨List.cons_ne_nil _ _, Document.bounded_fieldPath _,
        (Document.isObject_iff_accepts name).1 hx⟩
    rw [put, Document.set_of_writable h, Outcome.mapError_done, Outcome.toExcept_done]
    rfl

theorem put_metadata (hx : x.isObject = true) (path : Path) (names : List String)
    (h : path = fieldPath ("metadata" :: names)) (v : Option Document) :
    put path v x = .ok (x.seed path v) ∧ (x.seed path v).isObject = true := by
  subst h
  exact ⟨put_of_object hx _ _ _, Document.isObject_seed hx _ _ _⟩

/-- The base with the name and the namespace of a composed document. -/
def seeded (base composed : Document) : Document :=
  (base.seed namePath (composed.reach namePath)).seed namespacePath (composed.reach namespacePath)

/-- The composed document is of the type of the base, or of none yet. -/
def TypeKept (base composed : Document) : Prop :=
  ObjectType.of composed = .unknown ∨ ObjectType.of composed = ObjectType.of base

theorem isObject_seeded (object : base.isObject = true) (composed : Document) :
    (seeded base composed).isObject = true :=
  Document.isObject_seed (Document.isObject_seed object _ _ _) _ _ _

theorem fromBase_eq_ok_iff : fromBase base composed = .ok y ↔
    base.isObject = true ∧ TypeKept base composed ∧ y = seeded base composed := by
  cases object : base.isObject with
  | false => simp [fromBase, object]
  | true =>
    by_cases kept : TypeKept base composed
    · have unchanged : ¬ (ObjectType.of composed ≠ .unknown ∧
          ObjectType.of composed ≠ ObjectType.of base) := fun changed =>
        kept.elim changed.1 changed.2
      have hname : composed.at? ["metadata", "name"] = composed.reach namePath :=
        Document.at?_eq_reach _ _
      have hspace : composed.at? ["metadata", "namespace"] = composed.reach namespacePath :=
        Document.at?_eq_reach _ _
      obtain ⟨first, named⟩ := put_metadata object namePath ["name"] rfl (composed.reach namePath)
      obtain ⟨second, -⟩ := put_metadata named namespacePath ["namespace"] rfl
        (composed.reach namespacePath)
      simp [fromBase, object, unchanged, kept, hname, hspace, first, second, seeded, bind,
        Except.bind, eq_comm (a := y)]
    · have changed : ObjectType.of composed ≠ .unknown ∧
          ObjectType.of composed ≠ ObjectType.of base := not_or.1 kept
      simp [fromBase, object, kept, changed]

/-- The name and the namespace lie beside the owner references. -/
theorem ownerReferences_seeded (base composed : Document) :
    ownerReferences (seeded base composed) = ownerReferences base := by
  have beside {a : String} (h : a ≠ "ownerReferences") (x : Document) (v : Option Document) :
      (x.seed (fieldPath ["metadata", a]) v).reach ownerReferencesPath =
        x.reach ownerReferencesPath := by
    refine Document.reach_seed_of_parts ?_ x v
    simp [fieldPath, ownerReferencesPath, Path.partsAtFields_cons, h]
  have kept : (seeded base composed).reach ownerReferencesPath = base.reach ownerReferencesPath :=
    (beside (by decide) _ _).trans (beside (by decide) base _)
  have read (x : Document) : x.at? ["metadata", "ownerReferences"] = x.reach ownerReferencesPath :=
    Document.at?_eq_reach _ x
  rw [ownerReferences, ownerReferences, read, read, kept]

/-- The name of the composed document appears in the refusal of a foreign controller only. -/
theorem claimControl_congr {references : List Document}
    (same : ownerReferences x = ownerReferences y)
    (ok : claimControl composite x = .ok references) :
    claimControl composite y = .ok references := by
  cases huid : textAt composite (fieldPath ["metadata", "uid"]) with
  | error e => simp [claimControl, huid, bind, Except.bind] at ok
  | ok uid =>
  cases href : controllerReference composite (uid.getD "") with
  | error e => simp [claimControl, huid, href, bind, Except.bind] at ok
  | ok reference =>
  simp only [claimControl, huid, href, same, bind, Except.bind] at ok ⊢
  cases foreign : (ownerReferences y).find?
      fun r => isController r && r.textField "uid" != uid.getD "" with
  | some controller => simp [foreign] at ok
  | none => simpa only [foreign] using ok

/-- The writes of the metadata stage: the labels of the composite, the name of the template and the
owner references. -/
def metadataWrites (owner claim claimNamespace resourceName : Option String)
    (references : List Document) : List Write :=
  Document.writeIfSome generateNamePath (owner.map fun name => .string (name ++ "-")) ++
  Document.writeIfSome (labelPath compositeLabel) (owner.map .string) ++
  Document.writeIfSome (labelPath claimNameLabel) (claim.map .string) ++
  Document.writeIfSome (labelPath claimNamespaceLabel) (claimNamespace.map .string) ++
  Document.writeIfSome (annotationPath resourceNameAnnotation) (resourceName.map .string) ++
  [(ownerReferencesPath, .array references)]

theorem mem_metadataWrites (owner claim claimNamespace resourceName : Option String)
    (references : List Document) : (ownerReferencesPath, .array references) ∈
      metadataWrites owner claim claimNamespace resourceName references := by
  simp [metadataWrites]

theorem isObject_putAll_metadataWrites (x : Document)
    (owner claim claimNamespace resourceName : Option String) (references : List Document) :
    (x.putAll (metadataWrites owner claim claimNamespace resourceName references)).isObject =
      true := by
  rw [metadataWrites, Document.putAll_append]
  rfl

/-- For an object the metadata stage succeeds when the composite can be read and the owner
references admit it as the controller, and then it makes its writes. -/
theorem withMetadata_eq_ok_iff {resourceName : Option String} (hx : x.isObject = true) :
    withMetadata composite resourceName x = .ok y ↔
      ∃ references owner claim claimNamespace,
        claimControl composite x = .ok references ∧
        textAt composite (labelPath compositeLabel) = .ok owner ∧
        textAt composite (labelPath claimNameLabel) = .ok claim ∧
        textAt composite (labelPath claimNamespaceLabel) = .ok claimNamespace ∧
        y = x.putAll (metadataWrites owner claim claimNamespace resourceName references) := by
  cases h₀ : claimControl composite x with
  | error e => simp [withMetadata, h₀, bind, Except.bind]
  | ok references =>
  cases h₁ : textAt composite (labelPath compositeLabel) with
  | error e => simp [withMetadata, h₀, h₁, bind, Except.bind]
  | ok owner =>
  obtain ⟨p₁, o₁⟩ := put_metadata hx generateNamePath ["generateName"] rfl
    (owner.map fun name => .string (name ++ "-"))
  obtain ⟨p₂, o₂⟩ := put_metadata o₁ (labelPath compositeLabel) ["labels", compositeLabel] rfl
    (owner.map .string)
  cases h₂ : textAt composite (labelPath claimNameLabel) with
  | error e => simp [withMetadata, copyLabel, h₀, h₁, h₂, p₁, p₂, bind, Except.bind]
  | ok claim =>
  obtain ⟨p₃, o₃⟩ := put_metadata o₂ (labelPath claimNameLabel) ["labels", claimNameLabel] rfl
    (claim.map .string)
  cases h₃ : textAt composite (labelPath claimNamespaceLabel) with
  | error e => simp [withMetadata, copyLabel, h₀, h₁, h₂, h₃, p₁, p₂, p₃, bind, Except.bind]
  | ok claimNamespace =>
  obtain ⟨p₄, o₄⟩ := put_metadata o₃ (labelPath claimNamespaceLabel)
    ["labels", claimNamespaceLabel] rfl (claimNamespace.map .string)
  obtain ⟨p₅, o₅⟩ := put_metadata o₄ (annotationPath resourceNameAnnotation)
    ["annotations", resourceNameAnnotation] rfl (resourceName.map .string)
  obtain ⟨p₆, -⟩ := put_metadata o₅ ownerReferencesPath ["ownerReferences"] rfl
    (some (.array references))
  simp [withMetadata, copyLabel, h₀, h₁, h₂, h₃, p₁, p₂, p₃, p₄, p₅, p₆, bind, Except.bind,
    metadataWrites, Document.putAll_append, Document.putAll_writeIfSome,
    eq_comm (a := y)]

/-- Before its patches, a template makes the same writes on its seeded base for all documents that
are composed from it. -/
theorem prepare_of_ok {template : ComposedTemplate}
    (ok : (template.prepare composite composed).result = .ok ()) :
    TypeKept template.base composed ∧
      ∃ writes references, (ownerReferencesPath, .array references) ∈ writes ∧
        ∀ x, TypeKept template.base x →
          template.prepare composite x = .done ((seeded template.base x).putAll writes) ∧
            ((seeded template.base x).putAll writes).isObject = true := by
  obtain ⟨started, okMetadata⟩ := Outcome.ok_of_andThen_ok ok
  obtain ⟨base, based⟩ := Outcome.exists_of_ofExcept_ok (congrArg Outcome.result started)
  obtain ⟨object, kept, rfl⟩ := fromBase_eq_ok_iff.1 based
  rw [renderFromBase, based, Outcome.ofExcept_ok, Outcome.state_done] at okMetadata
  obtain ⟨_, tied⟩ := Outcome.exists_of_ofExcept_ok okMetadata
  obtain ⟨references, owner, claim, space, hreferences, howner, hclaim, hspace, -⟩ :=
    (withMetadata_eq_ok_iff (isObject_seeded object composed)).1 tied
  refine ⟨kept, metadataWrites owner claim space template.name references, references,
    mem_metadataWrites .., fun x hx => ⟨?_, isObject_putAll_metadataWrites ..⟩⟩
  have sameReferences : claimControl composite (seeded template.base x) = .ok references :=
    claimControl_congr ((ownerReferences_seeded _ _).trans (ownerReferences_seeded _ _).symm)
      hreferences
  have again : withMetadata composite template.name (seeded template.base x) =
      .ok ((seeded template.base x).putAll
        (metadataWrites owner claim space template.name references)) :=
    (withMetadata_eq_ok_iff (isObject_seeded object x)).2
      ⟨references, owner, claim, space, sameReferences, howner, hclaim, hspace, rfl⟩
  rw [ComposedTemplate.prepare_of_fromBase_ok composite (fromBase_eq_ok_iff.2 ⟨object, hx, rfl⟩),
    renderMetadata, again, Outcome.ofExcept_ok]

end Render
end ResourceLoom
