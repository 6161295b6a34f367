import ResourceLoom.Proofs.PatchFailures
import ResourceLoom.Proofs.RenderStages
import ResourceLoom.Proofs.TransformSteps

/-! # How renderings fail

Each stage of a rendering reports causes of its own: the transforms those of the values, the stages
before the patches those of the documents. The class of the causes tells the stages apart, so a
rendering is refused for a type only where it meets a reference to a set of patches. The patches are
the only stage that names a place, and a rendering that fails there leaves what the patches before
that place have made.
-/
namespace ResourceLoom

/-- Every failure of a computation is among the faults. -/
def FailsFor {α : Type} (faults : Error → Prop) (computed : Except Error α) : Prop :=
  ∀ e, computed = .error e → faults e

namespace FailsFor

variable {α β σ : Type} {faults : Error → Prop} {computed : Except Error α}

theorem ok (a : α) : FailsFor faults (.ok a : Except Error α) := nofun

theorem error {e : Error} (h : faults e) : FailsFor faults (.error e : Except Error α) := by
  rintro _ ⟨⟩
  exact h

theorem mono {others : Error → Prop} (h : FailsFor faults computed)
    (weaker : ∀ e, faults e → others e) : FailsFor others computed :=
  fun e failed => weaker e (h e failed)

theorem bind {next : α → Except Error β} (h : FailsFor faults computed)
    (further : ∀ a, FailsFor faults (next a)) : FailsFor faults (computed >>= next) := by
  cases computed with
  | ok a => exact further a
  | error e => exact error (h e rfl)

/-- The place of a failure does not change its cause. -/
theorem within {causes : Cause → Prop} (place : Place)
    (h : FailsFor (causes ·.cause) computed) :
    FailsFor (causes ·.cause) (computed.mapError (.within place)) := by
  cases computed with
  | ok a => exact ok a
  | error e => exact error (h e rfl)

theorem ofExcept {before : σ} {computed : Except Error σ} (h : FailsFor faults computed) :
    FailsFor faults (Outcome.ofExcept before computed).result := by
  cases computed with
  | ok after => exact ok ()
  | error e => exact error (h e rfl)

theorem andThen {outcome : Outcome Error σ} {next : σ → Outcome Error σ}
    (h : FailsFor faults outcome.result) (further : ∀ s, FailsFor faults (next s).result) :
    FailsFor faults (outcome.andThen next).result := by
  rcases Outcome.eq_done_or_eq_fail outcome with done | ⟨e, failed⟩
  · rw [done, Outcome.andThen_done]
    exact further outcome.state
  · rw [failed] at h ⊢
    exact error (h e rfl)

end FailsFor

/-- The failure is about a value. -/
def Cause.OfValue (cause : Cause) : Prop := cause.errorClass = .resolution

namespace Transform

theorem failsFor_single (t : Transform) (v : Document) :
    FailsFor (·.cause.OfValue) (t.single v) := by
  rcases single_cases t v with ⟨-, w, done, -⟩ | ⟨cause, failed, value, -⟩
  · rw [done]
    exact .ok w
  · rw [failed]
    exact .error value

theorem failsFor_resolveBare (t : Transform) (values : List Document) :
    FailsFor (·.cause.OfValue) (t.resolveBare values) := by
  by_cases empty : values = []
  · subst empty
    rcases resolveBare_nil t with ⟨-, failed⟩ | ⟨-, failed⟩ <;> rw [failed] <;> exact .error rfl
  · by_cases separate : t.Combines
    · cases t with
      | combine how =>
        obtain ⟨v, rest, rfl⟩ := List.exists_cons_of_ne_nil empty
        exact .ok _
      | _ => exact separate.elim
    · rcases resolveBare_cases separate empty with ⟨results, -, done⟩ |
        ⟨v, -, inner, e, alone, failed, same⟩
      · rw [done]
        exact .ok results
      · rw [failed]
        exact .error (same ▸ failsFor_single t v inner alone)

theorem failsFor_runFrom (index : Nat) (chain : List Transform) (values : List Document) :
    FailsFor (·.cause.OfValue) (runFrom index chain values) := by
  induction chain generalizing index values with
  | nil => exact .ok values
  | cons t rest ih =>
    have first : FailsFor (·.cause.OfValue) (t.resolve values) :=
      (failsFor_resolveBare t values).within _
    rw [runFrom]
    cases stepped : t.resolve values with
    | error e => exact .error (first e stepped)
    | ok next => exact ih (index + 1) next

/-- A chain fails for a value, or because it leaves several. -/
theorem failsFor_run (chain : List Transform) (values : List Document) :
    FailsFor (fun e => e.cause.OfValue ∨ ∃ count, e.cause = .combineRequired count)
      (run chain values) := by
  have steps := failsFor_runFrom 0 chain values
  unfold run
  split
  · next e failed => exact .error (.inl (steps e failed))
  · exact .ok _
  · exact .error (.inl rfl)
  · exact .error (.inr ⟨_, rfl⟩)

end Transform

/-- The failure is that something is of a type that is not taken. -/
def Cause.OfType (cause : Cause) : Prop := cause.errorClass = .unsupportedType

theorem PathError.not_ofType (fault : PathError) : ¬ (Cause.path fault).OfType := by
  cases fault <;> exact nofun

namespace Patch

variable {patch : Patch} {only : List PatchType} {documents : Documents}

/-- A patch is refused for its type only. -/
theorem type_of_failsWith {e : Error} (h : patch.FailsWith documents e) (refused : e.cause.OfType) :
    patch.type = .patchSet := by
  cases h with
  | reference type => exact type
  | incomplete field lacks => cases refused
  | unreadable sources read => exact absurd refused (PathError.not_ofType _)
  | unwritable given written => exact absurd refused (PathError.not_ofType _)
  | unresolved sources found ran =>
    rcases Transform.failsFor_run _ _ e ran with value | ⟨count, several⟩
    · rw [Cause.OfType, value] at refused
      cases refused
    · rw [several] at refused
      cases refused

/-- Of several patches one that refers to a set is the one that is refused for its type. -/
theorem failsFor_applyFrom {patches : List Patch} {index : Nat}
    (plain : ∀ patch ∈ patches, patch.selected only = true → patch.type ≠ .patchSet) :
    FailsFor (¬ ·.cause.OfType) (applyFrom only index patches documents).result := by
  intro e failed refused
  obtain ⟨before, culprit, after, reached, inner, rfl, -, stopped, rfl, -⟩ :=
    applyFrom_of_error failed
  have mem : culprit ∈ before ++ culprit :: after := by simp
  obtain ⟨chosen, fails⟩ := failsWith_of_apply (congrArg Outcome.result stopped)
  exact plain culprit mem chosen (type_of_failsWith fails refused)

end Patch

/-- The failures of reading and writing along a path, which are not met at any place. -/
def Error.OfPath (e : Error) : Prop := ∃ fault, e = .ofPath fault

/-- The failures of the stages before the patches, which are not met at any place. -/
inductive Error.OfPreparation : Error → Prop where
  | path (fault : PathError) : OfPreparation (.ofPath fault)
  | kindChanged (before after : String) : OfPreparation (.ofCause (.kindChanged before after))
  | controllerConflict (composed kind name uid : String) :
      OfPreparation (.ofCause (.controllerConflict composed kind name uid))

namespace Error.OfPreparation

variable {e : Error}

theorem ofPath (h : e.OfPath) : e.OfPreparation := by
  obtain ⟨fault, rfl⟩ := h
  exact path fault

theorem not_ofType (h : e.OfPreparation) : ¬ e.cause.OfType := by
  cases h with
  | path fault => exact PathError.not_ofType fault
  | kindChanged | controllerConflict => exact nofun

theorem ne_within (h : e.OfPreparation) (place : Place) (inner : Error) :
    e ≠ inner.within place := by
  cases h <;> exact nofun

end Error.OfPreparation

namespace Render

variable (composite composed base x : Document)

theorem failsFor_put (path : Path) (value : Option Document) :
    FailsFor Error.OfPath (put path value x) := by
  cases value with
  | none => exact .ok x
  | some v =>
    rcases Outcome.eq_done_or_eq_fail (x.set path v) with done | ⟨fault, failed⟩
    · rw [put, done]
      exact .ok _
    · rw [put, failed]
      exact .error ⟨fault, rfl⟩

theorem failsFor_textAt (path : Path) : FailsFor Error.OfPath (textAt x path) := by
  unfold textAt
  cases x.find path with
  | ok found => exact .ok _
  | error fault => exact .error ⟨fault, rfl⟩

theorem failsFor_fromBase : FailsFor Error.OfPreparation (fromBase base composed) := by
  simp only [fromBase]
  split
  · exact .error (.path _)
  split
  · exact .error (.kindChanged _ _)
  · refine FailsFor.mono ?_ fun _ => .ofPath
    exact (failsFor_put base _ _).bind fun named => failsFor_put named _ _

theorem failsFor_controllerReference (uid : String) :
    FailsFor Error.OfPath (controllerReference composite uid) :=
  (failsFor_textAt composite _).bind fun _ => (failsFor_textAt composite _).bind fun _ =>
    (failsFor_textAt composite _).bind fun _ => .ok _

theorem failsFor_claimControl : FailsFor Error.OfPreparation (claimControl composite composed) := by
  refine ((failsFor_textAt composite _).mono fun _ => .ofPath).bind fun uid => ?_
  refine ((failsFor_controllerReference composite _).mono fun _ => .ofPath).bind fun reference => ?_
  dsimp only
  split
  · exact .error (.controllerConflict _ _ _ _)
  · exact .ok _

theorem failsFor_copyLabel (key : String) :
    FailsFor Error.OfPath (copyLabel composite key composed) :=
  (failsFor_textAt composite _).bind fun _ => failsFor_put composed _ _

/-- Once the composite may be the controller, only a path can stop the metadata stage. -/
theorem failsFor_withMetadata_of_claim {references : List Document}
    (claimed : claimControl composite composed = .ok references) (resourceName : Option String) :
    FailsFor Error.OfPath (withMetadata composite resourceName composed) := by
  rw [withMetadata, claimed]
  refine (failsFor_textAt composite _).bind fun owner => ?_
  refine (failsFor_put composed _ _).bind fun next => ?_
  refine (failsFor_copyLabel composite next _).bind fun next => ?_
  refine (failsFor_copyLabel composite next _).bind fun next => ?_
  refine (failsFor_copyLabel composite next _).bind fun next => ?_
  exact (failsFor_put next _ _).bind fun next => failsFor_put next _ _

theorem withMetadata_of_claim_error {e : Error}
    (refused : claimControl composite composed = .error e) (resourceName : Option String) :
    withMetadata composite resourceName composed = .error e := by
  rw [withMetadata, refused]
  rfl

theorem failsFor_withMetadata (resourceName : Option String) :
    FailsFor Error.OfPreparation (withMetadata composite resourceName composed) := by
  cases claimed : claimControl composite composed with
  | ok references =>
    exact (failsFor_withMetadata_of_claim composite composed claimed resourceName).mono
      fun _ => .ofPath
  | error e =>
    rw [withMetadata_of_claim_error composite composed claimed]
    exact .error (failsFor_claimControl composite composed e claimed)

theorem failsFor_prepare (template : ComposedTemplate) :
    FailsFor Error.OfPreparation (template.prepare composite composed).result :=
  (failsFor_fromBase composed template.base).ofExcept.andThen fun based =>
    (failsFor_withMetadata composite based template.name).ofExcept

end Render

/-- A rendering whose selected patches refer to no set is not refused for a type. -/
theorem ComposedTemplate.failsFor_render {template : ComposedTemplate} {config : RenderConfig}
    (plain : ∀ patch ∈ template.patches, patch.selected config.patchTypes = true →
      patch.type ≠ .patchSet) (documents : Documents) :
    FailsFor (¬ ·.cause.OfType) (template.render config documents).result := by
  have before := Render.failsFor_prepare documents.composite documents.composed template
  exact FailsFor.andThen (before.mono fun _ => Error.OfPreparation.not_ofType)
    fun reached => Patch.failsFor_applyFrom plain

/-- A failure at a patch tells the position of the patch and its own error. -/
theorem Error.within_patch_inj {i j : Nat} {inner other : Error}
    (same : inner.within (.patch i) = other.within (.patch j)) : i = j ∧ inner = other := by
  obtain ⟨places, cause⟩ := inner
  obtain ⟨others, reason⟩ := other
  simpa only [within, Error.mk.injEq, List.cons.injEq, Place.patch.injEq, and_assoc] using same

namespace ComposedTemplate

variable {template : ComposedTemplate} {config : RenderConfig} {documents : Documents}
  {composite composed before : Document} {e : Error}

/-- A preparation succeeds, or it fails at no place. -/
theorem prepare_cases (template : ComposedTemplate) (composite composed : Document) :
    template.prepare composite composed = .done (template.prepare composite composed).state ∨
      ∃ e : Error, e.OfPreparation ∧ template.prepare composite composed =
        .fail e (template.prepare composite composed).state := by
  rcases Outcome.eq_done_or_eq_fail (template.prepare composite composed) with
    done | ⟨e, stopped⟩
  · exact .inl done
  · have early : e.OfPreparation :=
      Render.failsFor_prepare composite composed template e (congrArg Outcome.result stopped)
    exact .inr ⟨e, early, stopped⟩

/-- Behind the preparation it is one of the patches that fails, and those before it make a template
that succeeds. -/
theorem render_take_of_error (done : template.prepare composite composed = .done before)
    (failed : (template.render config ⟨composite, composed⟩).result = .error e) :
    ∃ i patch inner reached, e = inner.within (.patch i) ∧ template.patches[i]? = some patch ∧
      (template.render config ⟨composite, composed⟩).state = reached ∧
      { template with patches := template.patches.take i }.render config ⟨composite, composed⟩ =
        .done reached ∧
      patch.apply config.patchTypes reached = .fail inner reached := by
  rw [render_of_prepare_done config done] at failed ⊢
  obtain ⟨first, patch, rest, reached, inner, split, ran, stopped, place, left⟩ :=
    Patch.applyFrom_of_error failed
  have cut : template.patches.take first.length = first := by rw [split, List.take_left]
  have found : template.patches[first.length]? = some patch := by
    rw [split, List.getElem?_append_right (Nat.le_refl _), Nat.sub_self, List.getElem?_cons_zero]
  have shorter : { template with patches := first }.prepare composite composed = .done before :=
    done
  refine ⟨first.length, patch, inner, reached, ?_, found, left, ?_, stopped⟩
  · rw [place, Nat.zero_add]
  · rw [cut, render_of_prepare_done config shorter, ran]

/-- A rendering that fails at a patch leaves what the template with the patches before it makes, and
the patch fails on that with the same error. One that fails earlier applies no patch and leaves the
composite, and the composed document too where the base stage has failed. -/
theorem render_of_error (failed : (template.render config documents).result = .error e) :
    (∀ (i : Nat) (inner : Error), e = inner.within (.patch i) →
      ∃ patch, template.patches[i]? = some patch ∧
        { template with patches := template.patches.take i }.render config documents =
          .done (template.render config documents).state ∧
        patch.apply config.patchTypes (template.render config documents).state =
          .fail inner (template.render config documents).state) ∧
      ((∀ (i : Nat) (inner : Error), e ≠ inner.within (.patch i)) →
        template.prepare documents.composite documents.composed =
          .fail e (template.render config documents).state.composed ∧
        (∀ patches, { template with patches }.render config documents =
          template.render config documents) ∧
        (template.render config documents).state.composite = documents.composite ∧
        ∀ fault, (Render.renderFromBase template.base documents.composed).result = .error fault →
          (template.render config documents).state.composed = documents.composed) := by
  obtain ⟨composite, composed⟩ := documents
  rcases Outcome.eq_done_or_eq_fail (template.prepare composite composed) with
    done | ⟨fault, stopped⟩
  · obtain ⟨i, patch, inner, _, rfl, found, rfl, shorter, alone⟩ :=
      render_take_of_error done failed
    refine ⟨fun j other same => ?_, fun elsewhere => absurd rfl (elsewhere i inner)⟩
    obtain ⟨rfl, rfl⟩ := Error.within_patch_inj same
    exact ⟨patch, found, shorter, alone⟩
  · have whole (patches : List Patch) :
        { template with patches }.render config ⟨composite, composed⟩ =
          .fail fault ⟨composite, (template.prepare composite composed).state⟩ :=
      render_of_prepare_fail config stopped
    have same := whole template.patches
    rw [same] at failed ⊢
    obtain rfl : fault = e := Except.error.inj failed
    have nowhere : fault.OfPreparation :=
      Render.failsFor_prepare composite composed template fault (congrArg Outcome.result stopped)
    refine ⟨fun i inner here => absurd here (nowhere.ne_within (.patch i) inner), fun _ => ?_⟩
    refine ⟨stopped, whole, rfl, fun refusal refused => ?_⟩
    have unbased : template.prepare composite composed = .fail refusal composed :=
      prepare_of_fromBase_error composite (Outcome.error_of_ofExcept_error refused)
    exact congrArg Outcome.state unbased

/-- What multiplying a text fails with. -/
def multipliedText : Error := ⟨[.transform 0, .resolver "math"], .nonNumericInput⟩

theorem render_of_error_countedBucket :
    (countedBucket.render .empty ⟨site, freshBucket⟩).result =
        .error (multipliedText.within (.patch 1)) ∧
      ∃ patch, countedBucket.patches[1]? = some patch ∧
        { countedBucket with patches := countedBucket.patches.take 1 }.render .empty
            ⟨site, freshBucket⟩ =
          .done (countedBucket.render .empty ⟨site, freshBucket⟩).state ∧
        patch.apply RenderConfig.empty.patchTypes
            (countedBucket.render .empty ⟨site, freshBucket⟩).state =
          .fail multipliedText (countedBucket.render .empty ⟨site, freshBucket⟩).state := by
  have failed : (countedBucket.render .empty ⟨site, freshBucket⟩).result =
      .error (multipliedText.within (.patch 1)) := rfl
  exact ⟨failed, (render_of_error failed).1 1 multipliedText rfl⟩

end ComposedTemplate

end ResourceLoom
