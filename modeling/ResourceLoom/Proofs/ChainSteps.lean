import ResourceLoom.Proofs.TransformSteps

/-! # Steps of a chain

A chain takes its values through all of its transforms, or it breaks at one of them, which fails on
what those before it have made. Only a combination changes how many values there are, and it leaves
one. Without values no transform succeeds, so a chain does not get beyond its first one.
-/
namespace ResourceLoom.Transform

/-- The transforms of the chain, one after the other, make the results out of the values. -/
inductive Passes : List Transform → List Document → List Document → Prop where
  | nil (values : List Document) : Passes [] values values
  | cons {t : Transform} {rest : List Transform} {values next results : List Document}
      (step : t.resolve values = .ok next) (further : Passes rest next results) :
      Passes (t :: rest) values results

variable {t : Transform} {chain rest : List Transform} {values next results : List Document}
  {e : Error}

theorem runFrom_eq_ok_iff (index : Nat) :
    runFrom index chain values = .ok results ↔ Passes chain values results := by
  constructor
  · intro h
    induction chain generalizing values index with
    | nil =>
      cases h
      exact .nil results
    | cons t rest ih =>
      cases made : t.resolve values with
      | error e => simp [runFrom, made] at h
      | ok next =>
        simp only [runFrom, made] at h
        exact .cons made (ih (index + 1) h)
  · intro h
    induction h generalizing index with
    | nil => rfl
    | cons step further ih => simp only [runFrom, step, ih]

/-- A chain that breaks names the transform at which it does so. -/
theorem runFrom_eq_error {index : Nat} (h : runFrom index chain values = .error e) :
    ∃ before t after reached inner, chain = before ++ t :: after ∧ Passes before values reached ∧
      t.resolveBare reached = .error inner ∧
      e = (inner.within (.resolver t.typeName)).within (.transform (index + before.length)) := by
  induction chain generalizing values index with
  | nil => cases h
  | cons t rest ih =>
    cases bare : t.resolveBare values with
    | error inner =>
      simp only [runFrom, resolve_of_error bare, Except.error.injEq] at h
      exact ⟨[], t, rest, values, inner, rfl, .nil values, bare, h.symm⟩
    | ok next =>
      simp only [runFrom, resolve_of_ok bare] at h
      obtain ⟨before, u, after, reached, inner, rfl, passed, failed, rfl⟩ := ih h
      refine ⟨t :: before, u, after, reached, inner, rfl, .cons (resolve_of_ok bare) passed,
        failed, ?_⟩
      rw [List.length_cons, Nat.add_right_comm, Nat.add_assoc]

theorem length_of_resolve (nonempty : values ≠ []) (h : t.resolve values = .ok next) :
    (t.Combines → next.length = 1) ∧ (¬ t.Combines → next.length = values.length) := by
  by_cases combines : t.Combines
  · cases t with
    | combine how =>
      obtain ⟨v, others, rfl⟩ := List.exists_cons_of_ne_nil nonempty
      cases h
      exact ⟨fun _ => rfl, fun separate => absurd combines separate⟩
    | _ => exact combines.elim
  · refine ⟨fun together => absurd together combines, fun _ => ?_⟩
    rcases resolveBare_cases combines nonempty with ⟨made, singles, done⟩ |
      ⟨v, -, inner, fault, -, failed, -⟩
    · rw [resolve_of_ok done] at h
      cases h
      simpa using (congrArg List.length singles).symm
    · rw [resolve_of_error failed] at h
      cases h

theorem resolve_ne_nil (nonempty : values ≠ []) (h : t.resolve values = .ok next) : next ≠ [] := by
  obtain ⟨combined, kept⟩ := length_of_resolve nonempty h
  rintro rfl
  by_cases combines : t.Combines
  · exact absurd (combined combines) (by decide)
  · exact nonempty (List.eq_nil_of_length_eq_zero (kept combines).symm)

theorem Passes.ne_nil (h : Passes chain values results) (nonempty : values ≠ []) :
    results ≠ [] := by
  induction h with
  | nil => exact nonempty
  | cons step further ih => exact ih (resolve_ne_nil nonempty step)

/-- A combination anywhere in the chain leaves one value, and without one there are as many values
as at the beginning. -/
theorem Passes.length (h : Passes chain values results) (nonempty : values ≠ []) :
    ((∃ t ∈ chain, t.Combines) → results.length = 1) ∧
      ((∀ t ∈ chain, ¬ t.Combines) → results.length = values.length) := by
  induction h with
  | nil values => simp
  | @cons t rest values next results step further ih =>
    obtain ⟨combined, kept⟩ := length_of_resolve nonempty step
    obtain ⟨combinedLater, keptLater⟩ := ih (resolve_ne_nil nonempty step)
    constructor
    · intro combines
      by_cases later : ∃ u ∈ rest, u.Combines
      · exact combinedLater later
      · have separate : ∀ u ∈ rest, ¬ u.Combines := fun u mem together => later ⟨u, mem, together⟩
        have first : t.Combines := by simpa [later] using combines
        rw [keptLater separate, combined first]
    · intro separate
      obtain ⟨first, others⟩ := List.forall_mem_cons.1 separate
      rw [keptLater others, kept first]

theorem exists_resolve_nil_error (t : Transform) : ∃ e, t.resolve [] = .error e := by
  rcases resolveBare_nil t with ⟨-, failed⟩ | ⟨-, failed⟩ <;> exact ⟨_, resolve_of_error failed⟩

/-- Without values only the empty chain is passed. -/
theorem Passes.eq_nil (h : Passes chain [] results) : chain = [] ∧ results = [] := by
  cases h with
  | nil => exact ⟨rfl, rfl⟩
  | @cons t rest _ next _ step further =>
    obtain ⟨e, failed⟩ := exists_resolve_nil_error t
    rw [failed] at step
    cases step

theorem runFrom_append (index : Nat) (first second : List Transform) (values : List Document) :
    runFrom index (first ++ second) values =
      runFrom index first values >>= runFrom (index + first.length) second := by
  induction first generalizing index values with
  | nil => rfl
  | cons t rest ih =>
    cases made : t.resolve values with
    | error e => simp only [List.cons_append, runFrom, made]; rfl
    | ok next =>
      simp only [List.cons_append, runFrom, made, ih, List.length_cons, Nat.add_assoc,
        Nat.add_comm 1]

theorem run_append_of_error {first : List Transform}
    (failed : runFrom 0 first values = .error e) (second : List Transform) :
    run (first ++ second) values = .error e := by
  rw [run, runFrom_append, failed]
  rfl

end ResourceLoom.Transform
