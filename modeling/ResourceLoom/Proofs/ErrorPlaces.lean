import ResourceLoom.Proofs.ChainSteps
import ResourceLoom.Proofs.KindSoundness
import ResourceLoom.Proofs.LookupOutcomes
import ResourceLoom.Proofs.RenderFailures

/-! # Places in errors

The places in the error of a patch tell where to look. A transform that fails is named with its
position, and a value with its own only where the patch has several sources and nothing has combined
their values yet. All other failures of a patch are not met at any place below it. Taking the places
away leaves the cause, and its class is that of the whole error.
-/
namespace ResourceLoom

/-- The places around the root make up the error again. -/
theorem Error.foldr_within_root (e : Error) : e.places.foldr Error.within e.root = e := by
  obtain ⟨places, cause⟩ := e
  induction places with
  | nil => rfl
  | cons place rest ih => exact congrArg (Error.within place) ih

namespace Transform

variable {t : Transform} {chain : List Transform} {values : List Document} {e : Error}
  {v : Document}

theorem places_of_single (h : t.single v = .error e) : e.places = [] := by
  rcases single_cases t v with ⟨-, w, done, -⟩ | ⟨cause, failed, -⟩
  · rw [done] at h
    cases h
  · rw [failed] at h
    cases h
    rfl

/-- The error names no value, or the position of one among several that none of the transforms
before it has combined. -/
def NamesValue (before : List Transform) (count : Nat) (e : Error) : Prop :=
  e.places = [] ∨ ∃ position, e.places = [.value position] ∧ e.cause ≠ .noMultiplier ∧
    2 ≤ count ∧ position < count ∧ ∀ t ∈ before, ¬ t.Combines

theorem namesValue_of_resolveBare (h : t.resolveBare values = .error e) :
    NamesValue [] values.length e := by
  match values with
  | [] =>
    rcases resolveBare_nil t with ⟨-, failed⟩ | ⟨-, failed⟩ <;> rw [failed] at h <;> cases h <;>
      exact .inl rfl
  | [v] =>
    rw [resolveBare_singleton] at h
    cases alone : t.single v with
    | ok w =>
      rw [alone] at h
      cases h
    | error inner =>
      rw [alone] at h
      cases h
      exact .inl (places_of_single alone)
  | v :: u :: rest =>
    have several : 2 ≤ (v :: u :: rest).length := Nat.le_add_left 2 rest.length
    by_cases combines : t.Combines
    · cases t with
      | combine how => cases h
      | _ => exact combines.elim
    · rcases resolveBare_several_cases combines several with ⟨results, -, done⟩ |
        ⟨before, w, after, results, inner, split, -, failed, reported⟩
      · rw [done] at h
        cases h
      · rw [reported] at h
        cases h
        have unplaced := places_of_single failed
        have inside : before.length < (v :: u :: rest).length := by
          rw [split, List.length_append, List.length_cons]
          omega
        by_cases missing : inner.cause = .noMultiplier
        · rw [atValue, if_pos missing]
          exact .inl unplaced
        · rw [atValue, if_neg missing]
          exact .inr ⟨before.length, congrArg (Place.value before.length :: ·) unplaced,
            missing, several, inside, List.forall_mem_nil _⟩

/-- A chain that fails in a step names the transform with its position, and below that a value at
most. -/
theorem namesValue_of_runFrom (nonempty : values ≠ []) {index : Nat}
    (h : runFrom index chain values = .error e) :
    ∃ step t inner, chain[step]? = some t ∧
      e = (inner.within (.resolver t.typeName)).within (.transform (index + step)) ∧
      NamesValue (chain.take step) values.length inner := by
  obtain ⟨before, t, after, reached, inner, rfl, passed, failed, rfl⟩ := runFrom_eq_error h
  refine ⟨before.length, t, inner, by simp, rfl, ?_⟩
  rw [List.take_left]
  rcases namesValue_of_resolveBare failed with unplaced |
    ⟨position, place, multiplied, several, inside, -⟩
  · exact .inl unplaced
  · -- A value is named among those that have come to the step. As these are several, nothing before
    -- has combined them, so they are as many as at the beginning.
    obtain ⟨combined, kept⟩ := passed.length nonempty
    have separate : ∀ u ∈ before, ¬ u.Combines := by
      intro u mem combines
      rw [combined ⟨u, mem, combines⟩] at several
      exact absurd several (by decide)
    rw [kept separate] at several inside
    exact .inr ⟨position, place, multiplied, several, inside, separate⟩

end Transform

theorem Document.notMissing_of_write {x v : Document} {text : String} {fault : PathError}
    (h : (x.write text v).result = .error fault) : fault.NotMissing := by
  cases parsed : Path.parse text with
  | error refused =>
    rw [write, parsed] at h
    cases h
    exact Path.notMissing_of_parse parsed
  | ok path =>
    rw [write, parsed] at h
    have refused := set_error_iff.1 h
    intro missing same
    subst same
    cases refused

/-- What a patch reports itself, and not one of its transforms. -/
inductive Cause.OfPatch : Cause → Prop where
  | requiredField (field owner : String) : OfPatch (.requiredField field owner)
  | invalidPatchType (type : String) : OfPatch (.invalidPatchType type)
  | combineRequired (count : Nat) : OfPatch (.combineRequired count)
  | path {fault : PathError} (other : fault.NotMissing) : OfPatch (.path fault)

namespace Patch

/-- The errors of a patch with the places in them: none where the patch itself fails; the position
and the type of one of its transforms where this fails; and below that the position of a value where
the patch has several sources and no transform before that one combines their values. -/
inductive Located (patch : Patch) : Error → Prop where
  | patch {cause : Cause} (own : cause.OfPatch) : Located patch ⟨[], cause⟩
  | transform {step : Nat} {t : Transform} (found : patch.transforms[step]? = some t)
      (cause : Cause) : Located patch ⟨[.transform step, .resolver t.typeName], cause⟩
  | value {step position : Nat} {t : Transform} {cause : Cause}
      (found : patch.transforms[step]? = some t) (type : patch.type = .fromMultiple)
      (several : 2 ≤ patch.fromMultipleFieldPaths.length)
      (inside : position < patch.fromMultipleFieldPaths.length)
      (separate : ∀ other ∈ patch.transforms.take step, ¬ other.Combines)
      (multiplied : cause ≠ .noMultiplier) :
      Located patch ⟨[.transform step, .resolver t.typeName, .value position], cause⟩

variable {patch : Patch} {documents : Documents} {e : Error} {paths : List String}

theorem notMissing_of_readAll {source : Document} {fault : PathError}
    (h : readAll source paths = .error fault) : fault.NotMissing := by
  induction paths with
  | nil => cases h
  | cons text rest ih =>
    cases looked : source.lookup text with
    | error refused =>
      rw [readAll, looked] at h
      cases h
      exact Document.notMissing_of_lookup looked
    | ok value =>
      cases value with
      | none =>
        rw [readAll, looked] at h
        cases h
      | some v =>
        rw [readAll_cons_of_some looked] at h
        cases further : readAll source rest with
        | error refused =>
          rw [further] at h
          cases h
          exact ih further
        | ok values =>
          rw [further] at h
          cases h

/-- A patch reads one path, or it is of the type that reads several. -/
theorem sources_cases (h : patch.sources? = some paths) :
    paths.length = 1 ∨
      patch.type = .fromMultiple ∧ paths = patch.fromMultipleFieldPaths ∧ paths ≠ [] := by
  cases type : patch.type with
  | fromComposite | toComposite =>
    simp only [sources?, type, Option.map_eq_some_iff] at h
    obtain ⟨path, -, rfl⟩ := h
    exact .inl rfl
  | fromMultiple =>
    simp only [sources?, type] at h
    split at h
    · cases h
    · next nonempty =>
      cases h
      exact .inr ⟨rfl, rfl, nonempty⟩
  | patchSet => simp [sources?, type] at h

theorem length_of_resolves {source : Document} {inputs : List Document}
    (h : Resolves source paths inputs) : inputs.length = paths.length := by
  simpa using (congrArg List.length h).symm

/-- A patch that finds its sources has a value at least. -/
theorem inputs_ne_nil {source : Document} {inputs : List Document}
    (sources : patch.sources? = some paths) (found : Resolves source paths inputs) :
    inputs ≠ [] := by
  rintro rfl
  have count := length_of_resolves found
  rcases sources_cases sources with one | ⟨-, -, more⟩
  · rw [← count] at one
    cases one
  · exact more (List.eq_nil_of_length_eq_zero count.symm)

theorem located_of_run {source : Document} {inputs : List Document}
    (sources : patch.sources? = some paths) (found : Resolves source paths inputs)
    (ran : Transform.run patch.transforms inputs = .error e) : patch.Located e := by
  have count := length_of_resolves found
  have nonempty := inputs_ne_nil sources found
  rcases Transform.run_error_cases nonempty ran with stopped | ⟨left, rfl⟩
  · obtain ⟨step, t, inner, here, rfl, names⟩ :=
      Transform.namesValue_of_runFrom nonempty stopped
    obtain ⟨places, cause⟩ := inner
    rw [Nat.zero_add]
    rcases names with unplaced | ⟨position, place, multiplied, several, inside, separate⟩
    · obtain rfl : places = [] := unplaced
      exact .transform here cause
    · obtain rfl : places = [.value position] := place
      rcases sources_cases sources with one | ⟨type, rfl, -⟩
      · rw [count, one] at several
        exact absurd several (by decide)
      · rw [count] at several inside
        exact .value here type several inside separate multiplied
  · exact .patch (.combineRequired left)

theorem located_of_failsWith (h : patch.FailsWith documents e) : patch.Located e := by
  cases h with
  | reference type => exact .patch (.invalidPatchType _)
  | incomplete field lacks => exact .patch (.requiredField field _)
  | unreadable sources read => exact .patch (.path (notMissing_of_readAll read))
  | unresolved sources found ran => exact located_of_run sources found ran
  | unwritable given written => exact .patch (.path (Document.notMissing_of_write written))

theorem Located.patch_not_mem (h : patch.Located e) (i : Nat) : .patch i ∉ e.places := by
  cases h <;> simp

end Patch

namespace ComposedTemplate

variable {template : ComposedTemplate} {config : RenderConfig} {documents : Documents} {e : Error}
  {i : Nat}

/-- A rendering that fails at a patch names the position of a patch of the template, once, and below
it only places that this patch has. The places around the root make up the whole error, and the root
has its class. -/
theorem render_error_located
    (failed : (template.render config documents).result = .error (e.within (.patch i))) :
    (∃ patch, template.patches[i]? = some patch ∧ patch.Located e) ∧
      (∀ j, .patch j ∉ e.places) ∧
      (e.within (.patch i)).root = .ofCause e.cause ∧
      (.patch i :: e.places).foldr Error.within (.ofCause e.cause) = e.within (.patch i) ∧
      (e.within (.patch i)).errorClass = (e.within (.patch i)).root.errorClass := by
  obtain ⟨composite, composed⟩ := documents
  rcases template.prepare_cases composite composed with done | ⟨fault, early, stopped⟩
  · obtain ⟨j, patch, inner, reached, same, found, -, -, alone⟩ := render_take_of_error done failed
    obtain ⟨rfl, rfl⟩ := Error.within_patch_inj same
    have located : patch.Located e :=
      Patch.located_of_failsWith (Patch.failsWith_of_apply (congrArg Outcome.result alone)).2
    exact ⟨⟨patch, found, located⟩, located.patch_not_mem, rfl,
      (e.within (.patch i)).foldr_within_root, rfl⟩
  · rw [render_of_prepare_fail config stopped] at failed
    exact absurd (Except.error.inj failed) (early.ne_within (.patch i) e)

/-- A template that copies a size and then joins two of them, which it reads as integers. -/
def joinedSizes : ComposedTemplate :=
  { ofBase (.object [("apiVersion", .string "v1"), ("kind", .string "Bucket")]) with
    patches := [
      Patch.fromComposite "spec.least",
      { Patch.fromMultiple ["spec.least", "spec.most"] "spec.range" with
        transforms := [.convert .string, .convert .int, .combine (.string "%d-%d")] }] }

/-- The second of the sizes is no integer. -/
def unreadableSizes : Document :=
  .object [("spec", .object [("least", .int 21), ("most", .string "x")])]

def unreadableSize : Error :=
  ⟨[.transform 1, .resolver "convert", .value 1], .parseFailed "x" .int (.integer .invalidDigit)⟩

theorem render_error_located_joinedSizes :
    (joinedSizes.render .empty ⟨unreadableSizes, freshBucket⟩).result =
        .error (unreadableSize.within (.patch 1)) ∧
      (∃ patch, joinedSizes.patches[1]? = some patch ∧ patch.Located unreadableSize) ∧
      (unreadableSize.within (.patch 1)).errorClass = .resolution := by
  have failed : (joinedSizes.render .empty ⟨unreadableSizes, freshBucket⟩).result =
      .error (unreadableSize.within (.patch 1)) := rfl
  obtain ⟨located, -, -, -, sameClass⟩ := render_error_located failed
  exact ⟨failed, located, sameClass⟩

end ComposedTemplate
end ResourceLoom
