import ResourceLoom.Proofs.PatchAtomicity

/-! # How patches fail

A patch fails by its type, because it lacks a field, or at one of its three steps: reading the
sources, running the transforms, writing the result. `FailsWith` keeps of each what a caller may
want to know. A run of patches fails at one of them and leaves what those before it have done; what
each of them keeps, the run keeps.
-/
namespace ResourceLoom.Patch

/-- How a selected patch fails on two documents. -/
inductive FailsWith (patch : Patch) (documents : Documents) : Error → Prop where
  | reference (type : patch.type = .patchSet) :
      FailsWith patch documents (.ofCause (.invalidPatchType patch.type.name))
  | incomplete (field : String) (lacks : patch.sources? = none ∨ patch.target? = none) :
      FailsWith patch documents (.ofCause (.requiredField field patch.type.name))
  | unreadable {paths : List String} {fault : PathError} (sources : patch.sources? = some paths)
      (read : readAll (patch.source documents) paths = .error fault) :
      FailsWith patch documents (.ofPath fault)
  | unresolved {paths : List String} {inputs : List Document} {e : Error}
      (sources : patch.sources? = some paths)
      (found : Resolves (patch.source documents) paths inputs)
      (ran : Transform.run patch.transforms inputs = .error e) : FailsWith patch documents e
  | unwritable {target : String} {value : Document} {fault : PathError}
      (given : patch.target? = some target)
      (written : ((patch.destination documents).write target value).result = .error fault) :
      FailsWith patch documents (.ofPath fault)

variable {patch : Patch} {only : List PatchType} {documents : Documents} {e : Error}

theorem output_eq_error {source : Document} {path : String} {paths : List String}
    (h : patch.output path (readAll source paths) = .error e) :
    (∃ fault, readAll source paths = .error fault ∧ e = .ofPath fault) ∨
      ∃ inputs, Resolves source paths inputs ∧
        Transform.run patch.transforms inputs = .error e := by
  cases read : readAll source paths with
  | error fault =>
    simp only [output, read, Except.error.injEq] at h
    exact .inl ⟨fault, rfl, h.symm⟩
  | ok found =>
    cases found with
    | none => simp [output, read] at h
    | some inputs =>
      cases ran : Transform.run patch.transforms inputs with
      | ok value => simp [output, read, ran, Functor.map, Except.map] at h
      | error fault =>
        simp only [output, read, ran, Functor.map, Except.map, Except.error.injEq] at h
        subst h
        exact .inr ⟨inputs, readAll_eq_some_iff.1 read, ran⟩

theorem failsWith_of_output {path : String} {paths : List String}
    (sources : patch.sources? = some paths)
    (h : patch.output path (readAll (patch.source documents) paths) = .error e) :
    patch.FailsWith documents e := by
  rcases output_eq_error h with ⟨fault, read, rfl⟩ | ⟨inputs, found, ran⟩
  · exact .unreadable sources read
  · exact .unresolved sources found ran

/-- A patch that cannot be planned fails before it touches its destination. -/
theorem failsWith_of_plan (h : patch.plan (patch.source documents) = .error e) :
    patch.FailsWith documents e := by
  cases type : patch.type with
  | fromComposite | toComposite =>
    simp only [plan, type, planSingle] at h
    cases given : patch.fromFieldPath with
    | none =>
      have lacks : patch.sources? = none := by simp [sources?, type, given]
      simp only [given, required, bind, Except.bind, Except.error.injEq] at h
      subst h
      exact .incomplete "fromFieldPath" (.inl lacks)
    | some path =>
      have sources : patch.sources? = some [path] := by simp [sources?, type, given]
      simp only [given, required, bind, Except.bind] at h
      exact failsWith_of_output sources h
  | fromMultiple =>
    simp only [plan, type, planMultiple] at h
    by_cases empty : patch.fromMultipleFieldPaths = []
    · have lacks : patch.sources? = none := by simp [sources?, type, empty]
      simp only [empty, if_true, required, bind, Except.bind, Except.error.injEq] at h
      subst h
      exact .incomplete "fromMultipleFieldPaths" (.inl lacks)
    · cases given : patch.toFieldPath with
      | none =>
        have lacks : patch.target? = none := by simp [target?, type, given]
        simp only [empty, given, if_false, required, bind, Except.bind, Except.error.injEq] at h
        subst h
        exact .incomplete "toFieldPath" (.inr lacks)
      | some target =>
        have sources : patch.sources? = some patch.fromMultipleFieldPaths := by
          simp [sources?, type, empty]
        simp only [empty, given, if_false, required, bind, Except.bind] at h
        exact failsWith_of_output sources h
  | patchSet =>
    simp only [plan, type, Except.error.injEq] at h
    subst h
    have refused : patch.FailsWith documents _ := .reference type
    rwa [type] at refused

/-- A failing patch is selected, and it fails in one of the listed ways. -/
theorem failsWith_of_apply (failed : (patch.apply only documents).result = .error e) :
    patch.selected only = true ∧ patch.FailsWith documents e := by
  cases chosen : patch.selected only with
  | false =>
    rw [apply_of_not_selected chosen] at failed
    cases failed
  | true =>
    refine ⟨rfl, ?_⟩
    rw [apply_of_selected chosen] at failed
    cases planned : patch.plan (patch.source documents) with
    | error fault =>
      rw [planned] at failed
      cases failed
      exact failsWith_of_plan planned
    | ok write =>
      obtain ⟨paths, target, -, given, effect⟩ := plan_eq_ok planned
      rw [planned] at failed
      rcases effect with ⟨-, rfl⟩ | ⟨inputs, value, -, -, rfl⟩
      · cases failed
      · rcases written : (patch.destination documents).write target value with ⟨result, state⟩
        rw [carryOut, written] at failed
        cases result with
        | ok => cases failed
        | error fault =>
          cases failed
          exact .unwritable given (congrArg Outcome.result written)

/-- A patch succeeds, or it fails and leaves the documents as they are. -/
theorem apply_cases (patch : Patch) (only : List PatchType) (documents : Documents) :
    (∃ next, patch.apply only documents = .done next) ∨
      ∃ inner, patch.apply only documents = .fail inner documents := by
  rcases Outcome.eq_done_or_eq_fail (patch.apply only documents) with applied | ⟨inner, stopped⟩
  · exact .inl ⟨_, applied⟩
  · have kept : (patch.apply only documents).state = documents :=
      apply_state_of_error (congrArg Outcome.result stopped)
    rw [kept] at stopped
    exact .inr ⟨inner, stopped⟩

section Runs

variable {patches rest : List Patch} {index : Nat} {next : Documents}

theorem applyFrom_of_apply_done (applied : patch.apply only documents = .done next) (index : Nat)
    (rest : List Patch) : applyFrom only index (patch :: rest) documents =
      applyFrom only (index + 1) rest next := by
  rw [applyFrom, applied, Outcome.mapError_done, Outcome.andThen_done]

theorem applyFrom_of_apply_fail (stopped : patch.apply only documents = .fail e next) (index : Nat)
    (rest : List Patch) : applyFrom only index (patch :: rest) documents =
      .fail (e.within (.patch index)) next := by
  rw [applyFrom, stopped, Outcome.mapError_fail, Outcome.andThen_fail]

/-- A run of patches fails at one of them, with its position, and leaves the two documents as the
patches before it have made them. -/
theorem applyFrom_of_error (failed : (applyFrom only index patches documents).result = .error e) :
    ∃ before patch after reached inner, patches = before ++ patch :: after ∧
      applyFrom only index before documents = .done reached ∧
      patch.apply only reached = .fail inner reached ∧
      e = inner.within (.patch (index + before.length)) ∧
      (applyFrom only index patches documents).state = reached := by
  -- The patches before the failing one grow by one that succeeds.
  induction patches generalizing index documents with
  | nil => cases failed
  | cons patch rest ih =>
    rcases apply_cases patch only documents with ⟨next, applied⟩ | ⟨inner, stopped⟩
    · rw [applyFrom_of_apply_done applied] at failed ⊢
      obtain ⟨before, culprit, after, reached, inner, rfl, done, stopped, rfl, state⟩ := ih failed
      refine ⟨patch :: before, culprit, after, reached, inner, rfl, ?_, stopped, ?_, state⟩
      · rw [applyFrom_of_apply_done applied, done]
      · rw [List.length_cons, Nat.add_right_comm, Nat.add_assoc]
    · rw [applyFrom_of_apply_fail stopped] at failed ⊢
      cases failed
      exact ⟨[], patch, rest, documents, inner, rfl, rfl, stopped, rfl, rfl⟩

/-- What every selected patch keeps, a run of patches keeps, wherever it ends. -/
theorem applyFrom_keeps (Kept : Documents → Prop)
    (step : ∀ patch ∈ patches, patch.selected only = true →
      ∀ reached, Kept reached → Kept (patch.apply only reached).state)
    (kept : Kept documents) : Kept (applyFrom only index patches documents).state := by
  induction patches generalizing index documents with
  | nil => exact kept
  | cons patch rest ih =>
    obtain ⟨stepFirst, stepRest⟩ := List.forall_mem_cons.1 step
    have keptFirst : Kept (patch.apply only documents).state := by
      cases chosen : patch.selected only with
      | false => rwa [apply_of_not_selected chosen, Outcome.state_done]
      | true => exact stepFirst chosen documents kept
    rcases apply_cases patch only documents with ⟨next, applied⟩ | ⟨inner, stopped⟩
    · rw [applied] at keptFirst
      rw [applyFrom_of_apply_done applied]
      exact ih stepRest keptFirst
    · rw [applyFrom_of_apply_fail stopped]
      exact kept

/-- A run of patches that do not write to the composite leaves it as it is. -/
theorem composite_applyFrom
    (reads : ∀ patch ∈ patches, patch.selected only = true → patch.writesComposite = false) :
    (applyFrom only index patches documents).state.composite = documents.composite := by
  refine applyFrom_keeps (·.composite = documents.composite) ?_ rfl
  intro patch mem chosen reached same
  have kept := source_apply patch only reached
  simp only [source, reads patch mem chosen, Bool.false_eq_true, if_false] at kept
  exact kept.trans same

/-- A run of patches that write to the composite leaves the composed document as it is. -/
theorem composed_applyFrom
    (writes : ∀ patch ∈ patches, patch.selected only = true → patch.writesComposite = true) :
    (applyFrom only index patches documents).state.composed = documents.composed := by
  refine applyFrom_keeps (·.composed = documents.composed) ?_ rfl
  intro patch mem chosen reached same
  have kept := source_apply patch only reached
  simp only [source, writes patch mem chosen, if_true] at kept
  exact kept.trans same

end Runs

end ResourceLoom.Patch
