import ResourceLoom.Outcome

/-! # Results and states of outcomes

How the result and the state of an outcome come out of the parts that it is put together from.
-/
namespace ResourceLoom.Outcome

variable {ε δ σ τ : Type}

@[simp] theorem result_done (s : σ) : (done s : Outcome ε σ).result = .ok () := rfl

@[simp] theorem state_done (s : σ) : (done s : Outcome ε σ).state = s := rfl

@[simp] theorem result_fail (e : ε) (s : σ) : (fail e s).result = .error e := rfl

@[simp] theorem state_fail (e : ε) (s : σ) : (fail e s).state = s := rfl

@[simp] theorem onState_done (f : σ → τ) (s : σ) :
    (done s : Outcome ε σ).onState f = done (f s) := rfl

@[simp] theorem onState_fail (f : σ → τ) (e : ε) (s : σ) :
    (fail e s).onState f = fail e (f s) := rfl

@[simp] theorem mapError_done (f : ε → δ) (s : σ) : (done s).mapError f = done s := rfl

@[simp] theorem mapError_fail (f : ε → δ) (e : ε) (s : σ) :
    (fail e s).mapError f = fail (f e) s := rfl

@[simp] theorem andThen_done (s : σ) (next : σ → Outcome ε σ) : (done s).andThen next = next s :=
  rfl

@[simp] theorem andThen_fail (e : ε) (s : σ) (next : σ → Outcome ε σ) :
    (fail e s).andThen next = fail e s := rfl

@[simp] theorem toExcept_done (s : σ) : (done s : Outcome ε σ).toExcept = .ok s := rfl

@[simp] theorem ofExcept_ok (before after : σ) :
    (ofExcept before (.ok after) : Outcome ε σ) = done after := rfl

@[simp] theorem ofExcept_error (before : σ) (e : ε) :
    ofExcept before (.error e) = fail e before := rfl

theorem eq_done_or_eq_fail (outcome : Outcome ε σ) :
    outcome = done outcome.state ∨ ∃ e, outcome = fail e outcome.state := by
  obtain ⟨result, state⟩ := outcome
  cases result with
  | ok => exact .inl rfl
  | error e => exact .inr ⟨e, rfl⟩

theorem eq_done_of_ok {outcome : Outcome ε σ} (ok : outcome.result = .ok ()) :
    outcome = done outcome.state := by
  rcases eq_done_or_eq_fail outcome with h | ⟨e, h⟩
  · exact h
  · rw [h] at ok
    cases ok

theorem ok_of_mapError_ok {f : ε → δ} {outcome : Outcome ε σ}
    (ok : (outcome.mapError f).result = .ok ()) : outcome.result = .ok () := by
  rcases eq_done_or_eq_fail outcome with h | ⟨e, h⟩
  · rw [h, result_done]
  · rw [h, mapError_fail] at ok
    cases ok

theorem exists_of_ofExcept_ok {before : σ} {computed : Except ε σ}
    (ok : (ofExcept before computed).result = .ok ()) : ∃ after, computed = .ok after := by
  cases computed with
  | ok after => exact ⟨after, rfl⟩
  | error e => cases ok

theorem ofExcept_eq_done_iff {before after : σ} {computed : Except ε σ} :
    ofExcept before computed = done after ↔ computed = .ok after := by
  cases computed with
  | ok s =>
    simp only [ofExcept_ok, Except.ok.injEq]
    exact ⟨congrArg state, congrArg done⟩
  | error e =>
    simp only [ofExcept_error, reduceCtorEq, iff_false]
    intro same
    cases congrArg result same

theorem error_of_ofExcept_error {before : σ} {computed : Except ε σ} {e : ε}
    (failed : (ofExcept before computed).result = .error e) : computed = .error e := by
  cases computed with
  | ok after => cases failed
  | error fault =>
    cases failed
    rfl

/-- A computation in two steps succeeds when its first does, and so does what follows. -/
theorem exists_of_bind_ok {first : Except ε σ} {next : σ → Except ε τ} {after : τ}
    (ok : first >>= next = .ok after) : ∃ s, first = .ok s ∧ next s = .ok after := by
  cases first with
  | ok s => exact ⟨s, rfl, ok⟩
  | error e => cases ok

/-- A sequence succeeds when its first part does, and so does what follows. -/
theorem ok_of_andThen_ok {outcome : Outcome ε σ} {next : σ → Outcome ε σ}
    (ok : (outcome.andThen next).result = .ok ()) :
    outcome = done outcome.state ∧ (next outcome.state).result = .ok () := by
  rcases eq_done_or_eq_fail outcome with h | ⟨e, h⟩
  · rw [h, andThen_done] at ok
    exact ⟨h, ok⟩
  · rw [h, andThen_fail] at ok
    cases ok

end ResourceLoom.Outcome
