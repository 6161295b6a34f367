import ResourceLoom.Patch.Apply
import ResourceLoom.Proofs.DocumentPaths
import ResourceLoom.Proofs.Outcomes

/-! # Patches write all or nothing

A patch reads its sources, runs its transforms and makes at most one write, so a failure at any
point leaves both documents as they were. The reading side is described by the source paths alone:
either the first one that leads to no value is absent, and then nothing is written, or all of them
lead to values, and the transforms of these are written at the target.
-/
namespace ResourceLoom.Patch

/-- The texts of the paths that a patch reads, where they are given. -/
def sources? (patch : Patch) : Option (List String) :=
  match patch.type with
  | .fromComposite | .toComposite => patch.fromFieldPath.map fun path => [path]
  | .fromMultiple =>
    if patch.fromMultipleFieldPaths = [] then none else some patch.fromMultipleFieldPaths
  | .patchSet => none

/-- The text of the path that a patch writes to, where it is given. -/
def target? (patch : Patch) : Option String :=
  match patch.type with
  | .fromComposite | .toComposite => patch.toFieldPath.or patch.fromFieldPath
  | .fromMultiple => patch.toFieldPath
  | .patchSet => none

/-- The document that a patch reads. -/
def source (patch : Patch) (documents : Documents) : Document :=
  if patch.writesComposite then documents.composed else documents.composite

/-- The document that a patch writes to. -/
def destination (patch : Patch) (documents : Documents) : Document :=
  if patch.writesComposite then documents.composite else documents.composed

def withDestination (patch : Patch) (documents : Documents) (document : Document) : Documents :=
  if patch.writesComposite then { documents with composite := document }
  else { documents with composed := document }

/-- What a patch of any type writes. -/
def plan (patch : Patch) (source : Document) : Except Error (Option (String × Document)) :=
  match patch.type with
  | .fromComposite | .toComposite => patch.planSingle source
  | .fromMultiple => patch.planMultiple source
  | .patchSet => .error (.ofCause (.invalidPatchType patch.type.name))

/-- The first of the paths that leads to no value is absent from the source. -/
def FirstAbsent (source : Document) (paths : List String) : Prop :=
  ∃ before text after, paths = before ++ text :: after ∧
    (∀ other ∈ before, ∃ v, source.lookup other = .ok (some v)) ∧ source.lookup text = .ok none

/-- The paths lead to the values, in their order. -/
def Resolves (source : Document) (paths : List String) (values : List Document) : Prop :=
  paths.map source.lookup = values.map fun v => .ok (some v)

section Documents

variable {patch : Patch} {documents : Documents}

@[simp] theorem withDestination_destination (patch : Patch) (documents : Documents) :
    patch.withDestination documents (patch.destination documents) = documents := by
  cases h : patch.writesComposite <;> simp [withDestination, destination, h]

@[simp] theorem destination_withDestination (document : Document) :
    patch.destination (patch.withDestination documents document) = document := by
  cases h : patch.writesComposite <;> simp [withDestination, destination, h]

@[simp] theorem source_withDestination (document : Document) :
    patch.source (patch.withDestination documents document) = patch.source documents := by
  cases h : patch.writesComposite <;> simp [withDestination, source, h]

theorem withDestination_of_composite (h : patch.writesComposite = true) :
    patch.withDestination documents = fun composite => { documents with composite } := by
  funext d
  simp [withDestination, h]

theorem withDestination_of_composed (h : patch.writesComposite = false) :
    patch.withDestination documents = fun composed => { documents with composed } := by
  funext d
  simp [withDestination, h]

end Documents

variable {patch : Patch} {only : List PatchType} {documents : Documents}

theorem selected_iff : patch.selected only = true ↔ only = [] ∨ patch.type ∈ only := by
  simp [selected]

theorem apply_of_not_selected (h : patch.selected only = false) (documents : Documents) :
    patch.apply only documents = .done documents := by
  simp [apply, h]

/-- A selected patch carries its plan out on its destination. -/
theorem apply_of_selected (h : patch.selected only = true) (documents : Documents) :
    patch.apply only documents =
      (carryOut (patch.destination documents) (patch.plan (patch.source documents))).onState
        (patch.withDestination documents) := by
  cases ht : patch.type with
  | fromComposite | fromMultiple =>
    have hw : patch.writesComposite = false := by simp [writesComposite, ht]
    simp [apply, h, ht, plan, source, destination, hw, withDestination_of_composed hw]
  | toComposite =>
    have hw : patch.writesComposite = true := by simp [writesComposite, ht]
    simp [apply, h, ht, plan, source, destination, hw, withDestination_of_composite hw]
  | patchSet => simp [apply, h, plan, ht, carryOut]

theorem write_state_of_error {root v : Document} {text : String} {e : PathError}
    (failed : (root.write text v).result = .error e) : (root.write text v).state = root := by
  cases h : Path.parse text with
  | error fault => simp [Document.write, h]
  | ok path =>
    simp only [Document.write, h] at failed ⊢
    exact Document.set_state_of_error failed

theorem carryOut_state_of_error {target : Document}
    {plan : Except Error (Option (String × Document))} {e : Error}
    (failed : (carryOut target plan).result = .error e) :
    (carryOut target plan).state = target := by
  cases plan with
  | error fault => rfl
  | ok write =>
    cases write with
    | none => rfl
    | some write =>
      obtain ⟨text, v⟩ := write
      rcases Outcome.eq_done_or_eq_fail (target.write text v) with h | ⟨fault, h⟩
      · rw [carryOut, h, Outcome.mapError_done] at failed
        cases failed
      · have kept : (target.write text v).state = target :=
          write_state_of_error (congrArg Outcome.result h)
        simpa [carryOut, Outcome.mapError] using kept

section Reading

variable {source : Document} {paths : List String}

theorem firstAbsent_cons (text : String) : FirstAbsent source (text :: paths) ↔
    source.lookup text = .ok none ∨
      (∃ v, source.lookup text = .ok (some v)) ∧ FirstAbsent source paths := by
  constructor
  · rintro ⟨before, absent, after, split, there, missing⟩
    cases before with
    | nil =>
      obtain ⟨rfl, rfl⟩ := List.cons.inj split
      exact .inl missing
    | cons first before =>
      obtain ⟨rfl, rfl⟩ := List.cons.inj split
      obtain ⟨found, there⟩ := List.forall_mem_cons.1 there
      exact .inr ⟨found, before, absent, after, rfl, there, missing⟩
  · rintro (missing | ⟨found, before, absent, after, rfl, there, missing⟩)
    · exact ⟨[], text, paths, rfl, by simp, missing⟩
    · exact ⟨text :: before, absent, after, rfl, List.forall_mem_cons.2 ⟨found, there⟩, missing⟩

theorem readAll_cons_of_some {text : String} {v : Document}
    (found : source.lookup text = .ok (some v)) :
    readAll source (text :: paths) = (readAll source paths).map (Option.map (v :: ·)) := by
  simp only [readAll, found]
  rfl

theorem readAll_eq_none_iff : readAll source paths = .ok none ↔ FirstAbsent source paths := by
  induction paths with
  | nil => simp [readAll, FirstAbsent]
  | cons text rest ih =>
    rw [firstAbsent_cons, ← ih]
    cases found : source.lookup text with
    | error e => simp [readAll, found]
    | ok value =>
      cases value with
      | none => simp [readAll, found]
      | some v =>
        rw [readAll_cons_of_some found]
        cases readAll source rest with
        | error e => simp [Except.map]
        | ok tail => cases tail <;> simp [Except.map]

theorem resolves_cons (text : String) (values : List Document) :
    Resolves source (text :: paths) values ↔
      ∃ v tail, values = v :: tail ∧ source.lookup text = .ok (some v) ∧
        Resolves source paths tail := by
  constructor
  · intro h
    cases values with
    | nil => cases h
    | cons v tail =>
      obtain ⟨found, rest⟩ := List.cons.inj h
      exact ⟨v, tail, rfl, found, rest⟩
  · rintro ⟨v, tail, rfl, found, rest⟩
    exact List.cons_eq_cons.2 ⟨found, rest⟩

theorem readAll_eq_some_iff {values : List Document} :
    readAll source paths = .ok (some values) ↔ Resolves source paths values := by
  induction paths generalizing values with
  | nil => cases values <;> simp [readAll, Resolves]
  | cons text rest ih =>
    rw [resolves_cons]
    cases found : source.lookup text with
    | error e => simp [readAll, found]
    | ok value =>
      cases value with
      | none => simp [readAll, found]
      | some v =>
        simp only [readAll_cons_of_some found, ← ih]
        cases readAll source rest with
        | error e => simp [Except.map]
        | ok tail => cases tail <;> simp [Except.map, eq_comm (a := values)]

theorem output_eq_ok {path : String} {planned : Option (String × Document)}
    (h : patch.output path (readAll source paths) = .ok planned) :
    (FirstAbsent source paths ∧ planned = none) ∨
      ∃ inputs value, Resolves source paths inputs ∧
        Transform.run patch.transforms inputs = .ok value ∧ planned = some (path, value) := by
  cases read : readAll source paths with
  | error e => simp [output, read] at h
  | ok found =>
    cases found with
    | none =>
      simp only [output, read, Except.ok.injEq] at h
      exact .inl ⟨readAll_eq_none_iff.1 read, h.symm⟩
    | some inputs =>
      cases ran : Transform.run patch.transforms inputs with
      | error e => simp [output, read, ran, Functor.map, Except.map] at h
      | ok value =>
        simp only [output, read, ran, Functor.map, Except.map, Except.ok.injEq] at h
        exact .inr ⟨inputs, value, readAll_eq_some_iff.1 read, ran, h.symm⟩

end Reading

/-- A plan that is made names its sources and its target, and writes nothing exactly when a source
is absent. -/
theorem plan_eq_ok {source : Document} {planned : Option (String × Document)}
    (h : patch.plan source = .ok planned) :
    ∃ paths target, patch.sources? = some paths ∧ patch.target? = some target ∧
      ((FirstAbsent source paths ∧ planned = none) ∨
        ∃ inputs value, Resolves source paths inputs ∧
          Transform.run patch.transforms inputs = .ok value ∧ planned = some (target, value)) := by
  cases ht : patch.type with
  | fromComposite | toComposite =>
    simp only [plan, ht, planSingle] at h
    cases hpath : patch.fromFieldPath with
    | none => simp [hpath, required, bind, Except.bind] at h
    | some path =>
      simp only [hpath, required, bind, Except.bind] at h
      exact ⟨[path], patch.toFieldPath.getD path, by simp [sources?, ht, hpath],
        by cases htarget : patch.toFieldPath <;> simp [target?, ht, hpath, htarget], output_eq_ok h⟩
  | fromMultiple =>
    simp only [plan, ht, planMultiple] at h
    by_cases empty : patch.fromMultipleFieldPaths = []
    · simp [empty, required, bind, Except.bind] at h
    · cases htarget : patch.toFieldPath with
      | none => simp [empty, htarget, required, bind, Except.bind] at h
      | some target =>
        simp only [empty, htarget, required, bind, Except.bind, if_false] at h
        exact ⟨patch.fromMultipleFieldPaths, target, by simp [sources?, ht, empty],
          by simp [target?, ht, htarget], output_eq_ok h⟩
  | patchSet => simp [plan, ht] at h

theorem plan_of_firstAbsent {source : Document} {paths : List String} {target : String}
    (sources : patch.sources? = some paths) (given : patch.target? = some target)
    (absent : FirstAbsent source paths) : patch.plan source = .ok none := by
  have read : readAll source paths = .ok none := readAll_eq_none_iff.2 absent
  cases type : patch.type with
  | fromComposite | toComposite =>
    simp only [sources?, type, Option.map_eq_some_iff] at sources
    obtain ⟨path, hpath, rfl⟩ := sources
    simp only [plan, type, planSingle, hpath, required, bind, Except.bind, read, output]
  | fromMultiple =>
    simp only [target?, type] at given
    simp only [sources?, type] at sources
    split at sources
    · cases sources
    · next nonempty =>
      cases sources
      simp only [plan, type, planMultiple, nonempty, given, if_false, required, bind, Except.bind,
        read, output]
  | patchSet => simp [sources?, type] at sources

theorem not_firstAbsent_of_resolves {source : Document} {paths : List String}
    {inputs : List Document} (h : Resolves source paths inputs) : ¬ FirstAbsent source paths := by
  intro absent
  have none_read := readAll_eq_none_iff.2 absent
  rw [readAll_eq_some_iff.2 h] at none_read
  cases none_read

theorem apply_state_of_error {e : Error} (failed : (patch.apply only documents).result = .error e) :
    (patch.apply only documents).state = documents := by
  cases h : patch.selected only with
  | false => rw [apply_of_not_selected h, Outcome.state_done]
  | true =>
    rw [apply_of_selected h] at failed ⊢
    have kept := carryOut_state_of_error failed
    rw [Outcome.onState, kept, withDestination_destination]

/-- A patch never writes to the document that it reads. -/
theorem source_apply (patch : Patch) (only : List PatchType) (documents : Documents) :
    patch.source (patch.apply only documents).state = patch.source documents := by
  cases h : patch.selected only with
  | false => rw [apply_of_not_selected h, Outcome.state_done]
  | true => rw [apply_of_selected h, Outcome.onState, source_withDestination]

/-- What a selected patch that succeeds has done to its destination. -/
theorem destination_apply_of_ok (h : patch.selected only = true)
    (ok : (patch.apply only documents).result = .ok ()) :
    ∃ paths target, patch.sources? = some paths ∧ patch.target? = some target ∧
      ((FirstAbsent (patch.source documents) paths ∧
          patch.destination (patch.apply only documents).state = patch.destination documents) ∨
        ∃ inputs value, Resolves (patch.source documents) paths inputs ∧
          Transform.run patch.transforms inputs = .ok value ∧
          (patch.destination documents).write target value =
            .done (patch.destination (patch.apply only documents).state)) := by
  rw [apply_of_selected h] at ok ⊢
  rw [Outcome.onState, destination_withDestination]
  cases planned : patch.plan (patch.source documents) with
  | error e => simp [planned, carryOut, Outcome.onState] at ok
  | ok write =>
    obtain ⟨paths, target, hpaths, htarget, cases⟩ := plan_eq_ok planned
    refine ⟨paths, target, hpaths, htarget, ?_⟩
    rcases cases with ⟨absent, rfl⟩ | ⟨inputs, value, found, ran, rfl⟩
    · exact .inl ⟨absent, rfl⟩
    · refine .inr ⟨inputs, value, found, ran, ?_⟩
      rw [planned] at ok
      have written := Outcome.eq_done_of_ok (Outcome.ok_of_mapError_ok ok)
      rw [carryOut, written, Outcome.mapError_done]
      rfl

section Absent

variable {paths : List String} {target : String}

theorem apply_of_firstAbsent (sources : patch.sources? = some paths)
    (given : patch.target? = some target) (absent : FirstAbsent (patch.source documents) paths)
    (only : List PatchType) : patch.apply only documents = .done documents := by
  cases chosen : patch.selected only with
  | false => exact apply_of_not_selected chosen documents
  | true =>
    rw [apply_of_selected chosen, plan_of_firstAbsent sources given absent, carryOut,
      Outcome.onState_done, withDestination_destination]

/-- Where a source is absent, nothing is written, also by a patch that lacks a target. -/
theorem apply_state_of_firstAbsent (sources : patch.sources? = some paths)
    (absent : FirstAbsent (patch.source documents) paths) :
    (patch.apply only documents).state = documents := by
  rcases Outcome.eq_done_or_eq_fail (patch.apply only documents) with done | ⟨e, failed⟩
  · cases chosen : patch.selected only with
    | false => rw [apply_of_not_selected chosen, Outcome.state_done]
    | true =>
      obtain ⟨-, target, -, given, -⟩ :=
        destination_apply_of_ok chosen (congrArg Outcome.result done)
      rw [apply_of_firstAbsent sources given absent, Outcome.state_done]
  · exact apply_state_of_error (congrArg Outcome.result failed)

end Absent

/-- A patch that fails changes nothing, one that succeeds writes to its destination only, and there
it makes exactly the write that its sources, transforms and target call for: none when a source is
absent or its type is not selected. -/
theorem apply_all_or_nothing (patch : Patch) (only : List PatchType) (documents : Documents) :
    (∀ e, (patch.apply only documents).result = .error e →
      (patch.apply only documents).state = documents) ∧
    ((patch.apply only documents).result = .ok () →
      patch.source (patch.apply only documents).state = patch.source documents) ∧
    ((patch.apply only documents).result = .ok () → only = [] ∨ patch.type ∈ only →
      ∃ paths target, patch.sources? = some paths ∧ patch.target? = some target ∧
        (FirstAbsent (patch.source documents) paths →
          patch.destination (patch.apply only documents).state = patch.destination documents) ∧
        (¬ FirstAbsent (patch.source documents) paths →
          ∃ inputs value, Resolves (patch.source documents) paths inputs ∧
            Transform.run patch.transforms inputs = .ok value ∧
            (patch.destination documents).write target value =
              .done (patch.destination (patch.apply only documents).state))) ∧
    (only ≠ [] → patch.type ∉ only → patch.apply only documents = .done documents) := by
  refine ⟨fun e => apply_state_of_error, fun _ => source_apply patch only documents, ?_, ?_⟩
  · intro ok chosen
    obtain ⟨paths, target, hpaths, htarget, effect⟩ :=
      destination_apply_of_ok (selected_iff.2 chosen) ok
    refine ⟨paths, target, hpaths, htarget, fun absent => ?_, fun present => ?_⟩
    · rcases effect with ⟨-, unchanged⟩ | ⟨inputs, value, found, -⟩
      · exact unchanged
      · exact absurd absent (not_firstAbsent_of_resolves found)
    · rcases effect with ⟨absent, -⟩ | written
      · exact absurd absent present
      · exact written
  · intro nonempty excluded
    refine apply_of_not_selected (Bool.eq_false_iff.2 fun chosen => ?_) documents
    exact (selected_iff.1 chosen).elim nonempty excluded

end ResourceLoom.Patch
