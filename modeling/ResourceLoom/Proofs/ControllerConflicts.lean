import ResourceLoom.Proofs.FirstElements
import ResourceLoom.Proofs.MetadataReads
import ResourceLoom.Proofs.RenderFailures

/-! # Conflicts between controllers

The metadata stage refuses a document that another owner than the composite controls, and else makes
the composite the only controller. In a rendering it sees what the base stage leaves, which has the
owner references of the base. So a rendering is refused for a controller that the base names, and
never for one that only the composed document had.
-/
namespace ResourceLoom

/-- The failure is that something else controls the composed resource. -/
def Error.OfConflict (e : Error) : Prop :=
  ∃ composed kind name uid, e = .ofCause (.controllerConflict composed kind name uid)

theorem Error.OfPath.not_ofConflict {e : Error} (h : e.OfPath) : ¬ e.OfConflict := by
  rintro ⟨composed, kind, name, uid, same⟩
  obtain ⟨fault, rfl⟩ := h
  cases same

theorem Error.not_ofConflict_within (place : Place) (inner : Error) :
    ¬ (inner.within place).OfConflict := by
  rintro ⟨composed, kind, name, uid, same⟩
  cases same

namespace Render

/-- An owner reference makes the owner with the identifier a controller. -/
def ControlledBy (uid : String) (x : Document) : Prop :=
  ∃ r ∈ ownerReferences x, isController r = true ∧ r.textField "uid" = uid

/-- The reference makes an owner with another identifier a controller. -/
def ForeignController (uid : String) (r : Document) : Prop :=
  isController r = true ∧ r.textField "uid" ≠ uid

/-- An owner reference makes an owner with another identifier a controller. -/
def ControlledByOther (uid : String) (x : Document) : Prop :=
  ∃ r ∈ ownerReferences x, ForeignController uid r

instance (uid : String) (r : Document) : Decidable (ForeignController uid r) :=
  inferInstanceAs (Decidable (isController r = true ∧ _))

instance (uid : String) (x : Document) : Decidable (ControlledBy uid x) :=
  inferInstanceAs (Decidable (∃ r ∈ ownerReferences x, isController r = true ∧ _))

instance (uid : String) (x : Document) : Decidable (ControlledByOther uid x) :=
  inferInstanceAs (Decidable (∃ r ∈ ownerReferences x, ForeignController uid r))

theorem foreignController_iff {uid : String} {r : Document} :
    (isController r && r.textField "uid" != uid) = true ↔ ForeignController uid r := by
  rw [Bool.and_eq_true, bne_iff_ne, ForeignController]

theorem not_controlledByOther_iff {uid : String} {x : Document} :
    ¬ ControlledByOther uid x ↔ ∀ r ∈ ownerReferences x, ¬ ForeignController uid r := by
  simp only [ControlledByOther, not_exists, not_and]

/-- What is said of a document that the owner of a reference controls. -/
def conflictWith (x r : Document) : Error :=
  .ofCause (.controllerConflict ((carried x namePath).getD "") (r.textField "kind")
    (r.textField "name") (r.textField "uid"))

section References

variable {uid : String} {reference r : Document} {references : List Document}

theorem mem_mergeReference (uid : String) (reference : Document) (references : List Document) :
    reference ∈ mergeReference uid reference references := by
  induction references with
  | nil => exact List.mem_singleton_self reference
  | cons r rest ih =>
    rw [mergeReference]
    split
    · exact List.mem_cons_self
    · exact List.mem_cons_of_mem r ih

theorem eq_or_mem_of_mem_mergeReference (h : r ∈ mergeReference uid reference references) :
    r = reference ∨ r ∈ references := by
  induction references with
  | nil => exact .inl (List.mem_singleton.1 h)
  | cons first rest ih =>
    rw [mergeReference] at h
    split at h
    · exact (List.mem_cons.1 h).imp_right (List.mem_cons_of_mem first)
    · rcases List.mem_cons.1 h with rfl | further
      · exact .inr List.mem_cons_self
      · exact (ih further).imp_right (List.mem_cons_of_mem first)

/-- A reference to the owner itself is merged once. -/
theorem mergeReference_mergeReference (identified : reference.textField "uid" = uid)
    (references : List Document) :
    mergeReference uid reference (mergeReference uid reference references) =
      mergeReference uid reference references := by
  induction references with
  | nil => simp [mergeReference, identified]
  | cons r rest ih =>
    by_cases same : r.textField "uid" = uid
    · simp [mergeReference, same, identified]
    · simp [mergeReference, same, ih]

end References

section Stage

variable {composite x y : Document} {found : Option String} {uid : String}

/-- The composite is refused as a controller for the first of the others. -/
theorem claimControl_of_first {r : Document} (known : textAt composite uidPath = .ok found)
    (first : FirstWith (ForeignController (found.getD "")) (ownerReferences x) r) :
    claimControl composite x = .error (conflictWith x r) := by
  have made := controllerReference_of_readable (textAt_eq_ok_iff.1 known).1 (found.getD "")
  have searched : (ownerReferences x).find?
      (fun r => isController r && r.textField "uid" != found.getD "") = some r :=
    (find?_eq_some_iff_firstWith fun _ => foreignController_iff).2 first
  have named : (x.at? ["metadata", "name"]).bind Document.asString? = carried x namePath := by
    rw [carried_eq_reach, Document.at?_eq_reach, namePath]
  rw [uidPath] at known
  simp only [claimControl, known, made, bind, Except.bind, searched, named, conflictWith]

theorem claimControl_of_other (known : textAt composite uidPath = .ok found)
    (other : ControlledByOther (found.getD "") x) :
    ∃ conflict, claimControl composite x = .error conflict ∧ conflict.OfConflict := by
  obtain ⟨r, mem, foreign⟩ := other
  obtain ⟨controller, first⟩ := FirstWith.exists mem foreign
  exact ⟨_, claimControl_of_first known first, _, _, _, _, rfl⟩

/-- Where there is no other controller, the composite is entered as one. -/
theorem claimControl_of_own (known : textAt composite uidPath = .ok found)
    (own : ¬ ControlledByOther (found.getD "") x) :
    claimControl composite x = .ok (mergeReference (found.getD "")
      (controllerOf composite (found.getD "")) (ownerReferences x)) := by
  have made := controllerReference_of_readable (textAt_eq_ok_iff.1 known).1 (found.getD "")
  have absent : (ownerReferences x).find?
      (fun r => isController r && r.textField "uid" != found.getD "") = none :=
    List.find?_eq_none.2 fun r mem foreign =>
      not_controlledByOther_iff.1 own r mem (foreignController_iff.1 foreign)
  rw [uidPath] at known
  simp only [claimControl, known, made, bind, Except.bind, absent]
  rfl

/-- Among references that make no other owner a controller, none does so after a merge of one's
own. -/
theorem own_of_mem_mergeReference {reference : Document} (own : ¬ ControlledByOther uid x)
    (identified : reference.textField "uid" = uid) :
    ∀ r ∈ mergeReference uid reference (ownerReferences x), isController r = true →
      r.textField "uid" = uid := by
  intro r mem controls
  rcases eq_or_mem_of_mem_mergeReference mem with rfl | kept
  · exact identified
  · exact Classical.byContradiction fun differs =>
      not_controlledByOther_iff.1 own r kept ⟨controls, differs⟩

/-- With its reference merged in, the composite is a controller and the only one. -/
theorem controlledBy_of_merged (own : ¬ ControlledByOther uid x)
    (merged : ownerReferences y =
      mergeReference uid (controllerOf composite uid) (ownerReferences x)) :
    ControlledBy uid y ∧ ¬ ControlledByOther uid y := by
  rw [ControlledBy, not_controlledByOther_iff, merged]
  refine ⟨⟨controllerOf composite uid, mem_mergeReference _ _ _, by simp, by simp⟩, ?_⟩
  rintro r mem ⟨controller, differs⟩
  exact differs (own_of_mem_mergeReference own (by simp) r mem controller)

theorem ownerReferences_withMetadata {references : List Document} {resourceName : Option String}
    (hx : x.isObject = true) (claimed : claimControl composite x = .ok references)
    (made : withMetadata composite resourceName x = .ok y) : ownerReferences y = references := by
  obtain ⟨others, owner, claim, space, claimedToo, -, -, -, rfl⟩ :=
    (withMetadata_eq_ok_iff hx).1 made
  rw [claimed] at claimedToo
  cases claimedToo
  have path : fieldPath ["metadata", "ownerReferences"] = ownerReferencesPath := rfl
  rw [ownerReferences, Document.at?_eq_reach, path, metadataWrites, Document.putAll_append,
    Document.putAll_cons, Document.putAll_nil, Document.reach_put]
  rfl

/-- The metadata stage refuses a document with another controller and leaves it as it is. -/
theorem renderMetadata_of_other (known : textAt composite uidPath = .ok found)
    (other : ControlledByOther (found.getD "") x) (resourceName : Option String) :
    ∃ conflict : Error, conflict.OfConflict ∧
      renderMetadata composite resourceName x = .fail conflict x := by
  obtain ⟨conflict, refused, foreign⟩ := claimControl_of_other known other
  refine ⟨conflict, foreign, ?_⟩
  rw [renderMetadata, withMetadata_of_claim_error composite x refused, Outcome.ofExcept_error]

/-- Of any other object the metadata stage makes one that the composite alone controls, unless it
fails for something else. -/
theorem renderMetadata_of_own (known : textAt composite uidPath = .ok found)
    (own : ¬ ControlledByOther (found.getD "") x) (hx : x.isObject = true)
    (resourceName : Option String) :
    (∃ fault : Error, fault.OfPath ∧ renderMetadata composite resourceName x = .fail fault x) ∨
      ∃ y, renderMetadata composite resourceName x = .done y ∧
        ControlledBy (found.getD "") y ∧ ¬ ControlledByOther (found.getD "") y := by
  have claimed := claimControl_of_own known own
  cases made : withMetadata composite resourceName x with
  | error fault =>
    refine .inl ⟨fault, failsFor_withMetadata_of_claim composite x claimed _ fault made, ?_⟩
    rw [renderMetadata, made, Outcome.ofExcept_error]
  | ok y =>
    have merged := ownerReferences_withMetadata hx claimed made
    exact .inr ⟨y, by rw [renderMetadata, made, Outcome.ofExcept_ok],
      controlledBy_of_merged own merged⟩

theorem controlledByOther_seeded (uid : String) (base composed : Document) :
    ControlledByOther uid (seeded base composed) ↔ ControlledByOther uid base := by
  rw [ControlledByOther, ControlledByOther, ownerReferences_seeded]

end Stage

end Render

namespace ComposedTemplate

open Render (textAt uidPath ControlledBy ControlledByOther)

variable {template : ComposedTemplate} {config : RenderConfig} {composite composed : Document}
  {found : Option String}

/-- Behind the base stage it is the base that decides whether a rendering is refused for another
controller, whatever controls the composed document: if the base names one, the rendering ends there
with what the base stage has made; if not, it is not refused for that, and the preparation makes the
composite the only controller. -/
theorem render_conflict_of_base (known : textAt composite uidPath = .ok found)
    (based : (Render.renderFromBase template.base composed).result = .ok ()) :
    (ControlledByOther (found.getD "") template.base →
      ∃ conflict : Error, conflict.OfConflict ∧
        template.render config ⟨composite, composed⟩ =
          .fail conflict ⟨composite, (Render.renderFromBase template.base composed).state⟩) ∧
    (¬ ControlledByOther (found.getD "") template.base →
      (∀ e, (template.render config ⟨composite, composed⟩).result = .error e → ¬ e.OfConflict) ∧
      ∀ prepared, template.prepare composite composed = .done prepared →
        ControlledBy (found.getD "") prepared ∧ ¬ ControlledByOther (found.getD "") prepared) := by
  obtain ⟨_, made⟩ := Outcome.exists_of_ofExcept_ok based
  obtain ⟨object, -, rfl⟩ := Render.fromBase_eq_ok_iff.1 made
  have onwards := prepare_of_fromBase_ok composite made
  rw [Render.renderFromBase, made, Outcome.ofExcept_ok, Outcome.state_done]
  simp only [← Render.controlledByOther_seeded (found.getD "") template.base composed]
  refine ⟨fun other => ?_, fun own => ?_⟩
  · obtain ⟨conflict, foreign, refused⟩ :=
      Render.renderMetadata_of_other known other template.name
    exact ⟨conflict, foreign, render_of_prepare_fail config (onwards.trans refused)⟩
  · rcases Render.renderMetadata_of_own known own (Render.isObject_seeded object composed)
      template.name with ⟨fault, path, stopped⟩ | ⟨y, done, controlled, alone⟩
    · have unprepared := onwards.trans stopped
      rw [render_of_prepare_fail config unprepared, unprepared]
      refine ⟨fun e failed => ?_, fun prepared done => ?_⟩
      · cases failed
        exact path.not_ofConflict
      · cases congrArg Outcome.result done
    · have prepared := onwards.trans done
      rw [render_of_prepare_done config prepared, prepared]
      refine ⟨fun e failed => ?_, ?_⟩
      · obtain ⟨-, -, -, -, inner, -, -, -, rfl, -⟩ := Patch.applyFrom_of_error failed
        exact Error.not_ofConflict_within _ inner
      · intro _ same
        cases same
        exact ⟨controlled, alone⟩

/-- A template whose base comes with a controller. -/
def ownedBucket : ComposedTemplate := ofBase adoptedBucket

theorem render_conflict_of_base_ownedBucket :
    textAt site uidPath = .ok (some "7") ∧
      (Render.renderFromBase ownedBucket.base freshBucket).result = .ok () ∧
      ControlledByOther "7" ownedBucket.base ∧
      ∃ conflict : Error, conflict.OfConflict ∧
        ownedBucket.render .empty ⟨site, freshBucket⟩ =
          .fail conflict ⟨site, (Render.renderFromBase ownedBucket.base freshBucket).state⟩ := by
  have known : textAt site uidPath = .ok (some "7") := rfl
  have based : (Render.renderFromBase ownedBucket.base freshBucket).result = .ok () := rfl
  have other : ControlledByOther "7" ownedBucket.base := by decide
  exact ⟨known, based, other, (render_conflict_of_base known based).1 other⟩

/-- A template whose base comes with no metadata. -/
def plainBucket : ComposedTemplate :=
  ofBase (.object [("apiVersion", .string "v1"), ("kind", .string "Bucket")])

/-- A bucket that something else controls is rendered all the same, and then the composite controls
it. -/
theorem render_takes_over_adoptedBucket :
    textAt site uidPath = .ok (some "7") ∧ ControlledByOther "7" adoptedBucket ∧
      (plainBucket.render .empty ⟨site, adoptedBucket⟩).result = .ok () ∧
      ControlledBy "7" (plainBucket.render .empty ⟨site, adoptedBucket⟩).state.composed :=
  ⟨rfl, by decide, rfl, by decide⟩

end ComposedTemplate
end ResourceLoom
