import ResourceLoom.Proofs.ErrorPlaces

/-! # How many values a chain ends with

A chain has to end with one value. That it ends with several is reported for those chains that pass
all their transforms and combine nothing, and then it tells how many values there were at the
beginning. That there are no values is noticed at the first transform, or at the end of the empty
chain. A patch never comes to this, since it reads a path at least; and one that reads a single path
never ends with several values.
-/
namespace ResourceLoom

namespace Transform

variable {chain : List Transform} {values results : List Document} {e : Error} {count : Nat}

theorem run_of_several (passed : Passes chain values results) (several : 2 ≤ results.length) :
    run chain values = .error (.ofCause (.combineRequired results.length)) := by
  obtain ⟨v, u, rest, rfl⟩ : ∃ v u rest, results = v :: u :: rest := by
    match results, several with
    | v :: u :: rest, _ => exact ⟨v, u, rest, rfl⟩
  rw [run, (runFrom_eq_ok_iff 0).2 passed]

/-- A chain breaks at a transform, or it is passed and ends with another number of values than
one. -/
theorem run_eq_error (h : run chain values = .error e) :
    runFrom 0 chain values = .error e ∨ ∃ results, Passes chain values results ∧
      ((results = [] ∧ e = .ofCause .noInputValues) ∨
        2 ≤ results.length ∧ e = .ofCause (.combineRequired results.length)) := by
  unfold run at h
  split at h
  · next failed =>
    cases h
    exact .inl failed
  · cases h
  · next reached =>
    cases h
    exact .inr ⟨[], (runFrom_eq_ok_iff 0).1 reached, .inl ⟨rfl, rfl⟩⟩
  · next several notEmpty notOne reached =>
    cases h
    refine .inr ⟨several, (runFrom_eq_ok_iff 0).1 reached, .inr ⟨?_, rfl⟩⟩
    match several with
    | [] => exact absurd rfl notOne
    | [v] => exact absurd rfl (notEmpty v)
    | v :: u :: rest => exact Nat.le_add_left 2 rest.length

/-- That values are left over is not met at a place in the chain. -/
theorem eq_ofCause_of_combineRequired (failed : run chain values = .error e)
    (root : e.cause = .combineRequired count) : e = .ofCause (.combineRequired count) := by
  rcases run_eq_error failed with broken | ⟨results, -, ⟨-, rfl⟩ | ⟨-, rfl⟩⟩
  · have value : e.cause.OfValue := failsFor_runFrom 0 chain values e broken
    rw [root] at value
    cases value
  · cases root
  · cases root
    rfl

theorem run_eq_combineRequired_iff :
    run chain values = .error (.ofCause (.combineRequired count)) ↔
      2 ≤ values.length ∧ (∀ t ∈ chain, ¬ t.Combines) ∧ (∃ results, Passes chain values results) ∧
        count = values.length := by
  constructor
  · intro failed
    rcases run_eq_error failed with broken | ⟨results, passed, ⟨-, same⟩ | ⟨several, same⟩⟩
    · cases failsFor_runFrom 0 chain values _ broken
    · cases same
    · cases same
      have nonempty : values ≠ [] := by
        rintro rfl
        rw [passed.eq_nil.2] at several
        exact absurd several (by decide)
      obtain ⟨combined, kept⟩ := passed.length nonempty
      have separate : ∀ t ∈ chain, ¬ t.Combines := by
        intro t mem combines
        have one : results.length = 1 := combined ⟨t, mem, combines⟩
        omega
      rw [kept separate] at several ⊢
      exact ⟨several, separate, ⟨results, passed⟩, rfl⟩
  · rintro ⟨several, separate, ⟨results, passed⟩, rfl⟩
    have nonempty : values ≠ [] := List.ne_nil_of_length_pos (by omega)
    have kept := (passed.length nonempty).2 separate
    rw [← kept] at several ⊢
    exact run_of_several passed several

/-- With values, no transform reports that there are none. -/
theorem cause_of_resolveBare {t : Transform} (nonempty : values ≠ [])
    (failed : t.resolveBare values = .error e) : e.cause ≠ .noInputValues := by
  by_cases combines : t.Combines
  · cases t with
    | combine how =>
      obtain ⟨v, rest, rfl⟩ := List.exists_cons_of_ne_nil nonempty
      cases failed
    | _ => exact combines.elim
  · rcases resolveBare_cases combines nonempty with ⟨results, -, done⟩ |
      ⟨v, -, inner, fault, alone, reported, same⟩
    · rw [done] at failed
      cases failed
    · rw [reported] at failed
      cases failed
      rcases single_cases t v with ⟨-, w, done, -⟩ | ⟨cause, stopped, -, -, -, present⟩
      · rw [done] at alone
        cases alone
      · rw [stopped] at alone
        cases alone
        rwa [same]

theorem cause_ne_noInputValues (nonempty : values ≠ []) (failed : run chain values = .error e) :
    e.cause ≠ .noInputValues := by
  rcases run_eq_error failed with broken | ⟨results, passed, ⟨used, -⟩ | ⟨-, rfl⟩⟩
  · obtain ⟨before, t, after, reached, inner, -, passed, stopped, rfl⟩ := runFrom_eq_error broken
    have present := cause_of_resolveBare (passed.ne_nil nonempty) stopped
    exact present
  · exact absurd used (passed.ne_nil nonempty)
  · exact nofun

theorem run_nil_values (t : Transform) (rest : List Transform) :
    (t = math none →
      run (t :: rest) [] = .error ⟨[.transform 0, .resolver t.typeName], .noMultiplier⟩) ∧
    (t ≠ math none →
      run (t :: rest) [] = .error ⟨[.transform 0, .resolver t.typeName], .noInputValues⟩) := by
  rcases resolveBare_nil t with ⟨missing, failed⟩ | ⟨given, failed⟩
  · exact ⟨fun _ => by simp only [run, runFrom, resolve_of_error failed]; rfl,
      fun given => absurd missing given⟩
  · exact ⟨fun missing => absurd missing given,
      fun _ => by simp only [run, runFrom, resolve_of_error failed]; rfl⟩

end Transform

namespace Patch

variable {patch : Patch} {only : List PatchType} {documents : Documents} {e : Error}

/-- A patch that reads one path has one value to begin with. -/
theorem length_of_single {source : Document} {paths : List String} {inputs : List Document}
    (single : patch.type = .fromComposite ∨ patch.type = .toComposite)
    (sources : patch.sources? = some paths) (found : Resolves source paths inputs) :
    inputs.length = 1 := by
  rw [length_of_resolves found]
  rcases sources_cases sources with one | ⟨several, -⟩
  · exact one
  · rw [several] at single
    rcases single with type | type <;> cases type

/-- What a patch fails with is that values are left over at most, and this only where it reads
several paths. -/
theorem cause_of_failsWith (h : patch.FailsWith documents e) :
    e.cause ≠ .noInputValues ∧
      (patch.type = .fromComposite ∨ patch.type = .toComposite →
        ∀ count, e.cause ≠ .combineRequired count) := by
  cases h with
  | reference | incomplete | unreadable | unwritable => exact ⟨nofun, fun _ _ => nofun⟩
  | unresolved sources found ran =>
    refine ⟨Transform.cause_ne_noInputValues (inputs_ne_nil sources found) ran, ?_⟩
    intro single count root
    rw [Transform.eq_ofCause_of_combineRequired ran root] at ran
    obtain ⟨several, -⟩ := Transform.run_eq_combineRequired_iff.1 ran
    have one := length_of_single single sources found
    omega

end Patch

namespace Transform

/-- A chain ends with several values exactly when there were several and it passes all its
transforms without a combination, and it reports how many there were. Without values it fails at
once. So a patch never lacks values, and one that reads a single path never has values left over. -/
theorem run_arity (chain : List Transform) (values : List Document) :
    (∀ count, run chain values = .error (.ofCause (.combineRequired count)) ↔
      2 ≤ values.length ∧ (∀ t ∈ chain, ¬ t.Combines) ∧ (∃ results, Passes chain values results) ∧
        count = values.length) ∧
    (∀ e count, run chain values = .error e → e.root = .ofCause (.combineRequired count) →
      e = .ofCause (.combineRequired count)) ∧
    run [] [] = .error (.ofCause .noInputValues) ∧
    (∀ t rest,
      (t = math none →
        run (t :: rest) [] = .error ⟨[.transform 0, .resolver t.typeName], .noMultiplier⟩) ∧
      (t ≠ math none →
        run (t :: rest) [] = .error ⟨[.transform 0, .resolver t.typeName], .noInputValues⟩)) ∧
    ∀ (patch : Patch) (only : List PatchType) (documents : Documents) (e : Error),
      (patch.apply only documents).result = .error e →
        e.root ≠ .ofCause .noInputValues ∧
          (patch.type = .fromComposite ∨ patch.type = .toComposite →
            ∀ count, e.root ≠ .ofCause (.combineRequired count)) := by
  refine ⟨fun count => run_eq_combineRequired_iff, fun e count failed root => ?_, rfl,
    run_nil_values, fun patch only documents e failed => ?_⟩
  · have cause : e.cause = .combineRequired count := congrArg Error.cause root
    exact eq_ofCause_of_combineRequired failed cause
  · obtain ⟨present, one⟩ := Patch.cause_of_failsWith (Patch.failsWith_of_apply failed).2
    exact ⟨fun root => present (congrArg Error.cause root),
      fun single count root => one single count (congrArg Error.cause root)⟩

end Transform
end ResourceLoom
