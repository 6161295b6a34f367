import ResourceLoom.Proofs.TransformSteps

/-! # Kinds along a chain

Which kinds a chain takes and makes can be told from the kinds of its values alone. A chain that
takes them reaches the predicted kinds at every step, and it fails only for what kinds do not say:
a missing multiplier, a product out of range, a missing key, an unreadable text, or values left over.
A chain that does not take them never succeeds.
-/
namespace ResourceLoom.Transform

/-- The kinds after a transform. -/
def yields : Transform → List (Option Kind) → List (Option Kind)
  | combine _, _ => [some .string]
  | t, kinds => kinds.map fun _ => some t.outputKind

/-- The kinds after all the transforms of a chain. -/
def yieldsAll (chain : List Transform) (kinds : List (Option Kind)) : List (Option Kind) :=
  chain.foldl (fun kinds t => t.yields kinds) kinds

/-- Every transform of the chain takes the kinds that those before it yield. -/
def WellKinded : List Transform → List (Option Kind) → Prop
  | [], _ => True
  | t :: rest, kinds => (∀ kind ∈ kinds, t.Admits kind) ∧ WellKinded rest (t.yields kinds)

instance decidableWellKinded :
    (chain : List Transform) → (kinds : List (Option Kind)) → Decidable (WellKinded chain kinds)
  | [], _ => .isTrue trivial
  | t :: rest, kinds =>
    @instDecidableAnd _ _ inferInstance (decidableWellKinded rest (t.yields kinds))

def kinds (values : List Document) : List (Option Kind) := values.map Kind.of?

section Single

variable {t : Transform} {v w : Document} {e : Error}

theorem single_ok (h : t.single v = .ok w) :
    t.Admits (Kind.of? v) ∧ Kind.of? w = some t.outputKind := by
  rcases single_cases t v with ⟨admits, made, done, kind⟩ | ⟨cause, failed, -⟩
  · rw [done] at h
    cases h
    exact ⟨admits, kind⟩
  · rw [failed] at h
    cases h

theorem single_error (admits : t.Admits (Kind.of? v)) (h : t.single v = .error e) :
    e.cause.KindIndependent := by
  rcases single_cases t v with ⟨-, made, done, -⟩ | ⟨cause, failed, -, independent, -⟩
  · rw [done] at h
    cases h
  · rw [failed] at h
    cases h
    exact independent admits

end Single

section Step

variable {t : Transform} {values results : List Document} {e : Error}

theorem kinds_of_singles (h : values.map t.single = results.map .ok) :
    (∀ kind ∈ kinds values, t.Admits kind) ∧
      kinds results = (kinds values).map fun _ => some t.outputKind := by
  induction values generalizing results with
  | nil =>
    cases results with
    | nil => exact ⟨nofun, rfl⟩
    | cons w results => cases h
  | cons v rest ih =>
    cases results with
    | nil => cases h
    | cons w results =>
      obtain ⟨first, further⟩ := List.cons.inj h
      obtain ⟨admits, made⟩ := single_ok first
      obtain ⟨admitsRest, madeRest⟩ := ih further
      refine ⟨List.forall_mem_cons.2 ⟨admits, admitsRest⟩, ?_⟩
      exact List.cons_eq_cons.2 ⟨made, madeRest⟩

theorem yields_of_separate (separate : ¬ t.Combines) (ks : List (Option Kind)) :
    t.yields ks = ks.map fun _ => some t.outputKind := by
  cases t with
  | combine how => exact absurd trivial separate
  | _ => rfl

/-- A step either takes the kinds of its values and yields the predicted ones, or it fails, and for
nothing but what kinds do not say if it takes them. -/
theorem resolve_kinds (nonempty : values ≠ []) :
    (∃ results, t.resolve values = .ok results ∧ (∀ kind ∈ kinds values, t.Admits kind) ∧
      kinds results = t.yields (kinds values) ∧ results ≠ []) ∨
    ∃ e, t.resolve values = .error e ∧
      ((∀ kind ∈ kinds values, t.Admits kind) → e.cause.KindIndependent) := by
  by_cases combines : t.Combines
  · cases t with
    | combine how =>
      cases values with
      | nil => exact absurd rfl nonempty
      | cons v rest => exact .inl ⟨_, rfl, fun _ _ => trivial, rfl, List.cons_ne_nil _ _⟩
    | _ => exact combines.elim
  · rcases resolveBare_cases combines nonempty with ⟨results, singles, done⟩ |
      ⟨v, mem, inner, e, alone, failed, sameCause⟩
    · obtain ⟨admits, made⟩ := kinds_of_singles singles
      have resultsNonempty : results ≠ [] := by
        rintro rfl
        exact nonempty (List.map_eq_nil_iff.1 singles)
      exact .inl ⟨results, resolve_of_ok done, admits,
        made.trans (yields_of_separate combines _).symm, resultsNonempty⟩
    · refine .inr ⟨_, resolve_of_error failed, fun admits => ?_⟩
      have independent := single_error (admits _ (List.mem_map_of_mem mem)) alone
      exact sameCause ▸ independent

end Step

section Run

variable {chain : List Transform} {values results : List Document} {e : Error}

theorem runFrom_ok (nonempty : values ≠ []) (index : Nat)
    (h : runFrom index chain values = .ok results) :
    WellKinded chain (kinds values) ∧ kinds results = yieldsAll chain (kinds values) ∧
      results ≠ [] := by
  -- That the values are never used up is carried along: on none, every transform would fail.
  induction chain generalizing values index with
  | nil =>
    cases h
    exact ⟨trivial, rfl, nonempty⟩
  | cons t rest ih =>
    rcases resolve_kinds (t := t) nonempty with ⟨next, step, admits, yielded, nextNonempty⟩ |
      ⟨e, step, -⟩
    · simp only [runFrom, step] at h
      obtain ⟨wellKinded, predicted, resultsNonempty⟩ := ih nextNonempty (index + 1) h
      rw [yielded] at wellKinded predicted
      exact ⟨⟨admits, wellKinded⟩, predicted, resultsNonempty⟩
    · simp [runFrom, step] at h

theorem runFrom_error (nonempty : values ≠ []) (wellKinded : WellKinded chain (kinds values))
    (index : Nat) (h : runFrom index chain values = .error e) : e.cause.KindIndependent := by
  induction chain generalizing values index with
  | nil => cases h
  | cons t rest ih =>
    obtain ⟨admits, further⟩ := wellKinded
    rcases resolve_kinds (t := t) nonempty with ⟨next, step, -, yielded, nextNonempty⟩ |
      ⟨inner, step, independent⟩
    · simp only [runFrom, step] at h
      rw [← yielded] at further
      exact ih nextNonempty further (index + 1) h
    · simp only [runFrom, step, Except.error.injEq] at h
      exact h ▸ independent admits

theorem runFrom_of_run_ok {v : Document} (h : run chain values = .ok v) :
    runFrom 0 chain values = .ok [v] := by
  unfold run at h
  split at h
  · cases h
  · cases h
    assumption
  · cases h
  · cases h

/-- A chain on at least one value fails in a step or because it leaves several values. -/
theorem run_error_cases (nonempty : values ≠ []) (h : run chain values = .error e) :
    runFrom 0 chain values = .error e ∨ ∃ count, e = .ofCause (.combineRequired count) := by
  unfold run at h
  split at h
  · rename_i failed
    cases h
    exact .inl failed
  · cases h
  · rename_i reached
    exact absurd rfl (runFrom_ok nonempty 0 reached).2.2
  · cases h
    exact .inr ⟨_, rfl⟩

/-- A chain that takes the kinds of its values reaches the predicted kinds at every step and fails
for nothing that kinds say; one that does not take them fails. -/
theorem run_kind_sound (chain : List Transform) (nonempty : values ≠ []) :
    (WellKinded chain (kinds values) →
      (∀ before, before <+: chain → ∀ reached, runFrom 0 before values = .ok reached →
        kinds reached = yieldsAll before (kinds values)) ∧
      (∀ v, run chain values = .ok v → yieldsAll chain (kinds values) = [Kind.of? v] ∧
        (chain = [] → values = [v])) ∧
      ∀ e, run chain values = .error e → e.root.cause.KindIndependent) ∧
    (¬ WellKinded chain (kinds values) → ∀ v, run chain values ≠ .ok v) := by
  refine ⟨fun wellKinded => ⟨fun before _ reached h => ?_, fun v h => ?_, fun e h => ?_⟩,
    fun illKinded v h => ?_⟩
  · exact (runFrom_ok nonempty 0 h).2.1
  · have final := runFrom_of_run_ok h
    refine ⟨(runFrom_ok nonempty 0 final).2.1.symm, ?_⟩
    rintro rfl
    exact Except.ok.inj final
  · rcases run_error_cases nonempty h with failed | ⟨count, rfl⟩
    · have independent := runFrom_error nonempty wellKinded 0 failed
      exact independent
    · exact .combineRequired count
  · exact illKinded (runFrom_ok nonempty 0 (runFrom_of_run_ok h)).1

/-- Two sizes of different kinds that are doubled and combined. -/
def sizes : List Document := [.string "21", .bool true]

def sizeChain : List Transform := doubling ++ [.combine (.string "%d-%d")]

/-- Both kinds convert to integers; without the conversion the chain takes neither. -/
theorem run_kind_sound_sizes :
    sizes ≠ [] ∧ WellKinded sizeChain (kinds sizes) ∧
    runFrom 0 doubling sizes = .ok [.int 42, .int 2] ∧
    kinds [.int 42, .int 2] = yieldsAll doubling (kinds sizes) ∧
    (∃ v, run sizeChain sizes = .ok v ∧ yieldsAll sizeChain (kinds sizes) = [Kind.of? v]) ∧
    (∀ e, run (sizeChain ++ [.map .empty]) sizes = .error e → e.root.cause.KindIndependent) ∧
    ¬ WellKinded (.math (some 2) :: sizeChain) (kinds sizes) ∧
    ∀ v, run (.math (some 2) :: sizeChain) sizes ≠ .ok v := by
  have nonempty : sizes ≠ [] := List.cons_ne_nil _ _
  have wellKinded : WellKinded sizeChain (kinds sizes) := by decide
  have alsoMapped : WellKinded (sizeChain ++ [.map .empty]) (kinds sizes) := by decide
  have illKinded : ¬ WellKinded (.math (some 2) :: sizeChain) (kinds sizes) := by decide
  have halfway : runFrom 0 doubling sizes = .ok [.int 42, .int 2] := rfl
  obtain ⟨v, ran⟩ : ∃ v, run sizeChain sizes = .ok v := ⟨_, rfl⟩
  obtain ⟨intermediate, final, -⟩ := (run_kind_sound sizeChain nonempty).1 wellKinded
  obtain ⟨-, -, causes⟩ := (run_kind_sound (sizeChain ++ [.map .empty]) nonempty).1 alsoMapped
  have never := (run_kind_sound (.math (some 2) :: sizeChain) nonempty).2 illKinded
  exact ⟨nonempty, wellKinded, halfway,
    intermediate doubling (List.prefix_append _ _) _ halfway, ⟨v, ran, (final v ran).1⟩, causes,
    illKinded, never⟩

end Run

end ResourceLoom.Transform
