import Mathlib.Order.Bounds.Defs
import ResourceLoom.Proofs.ChainSteps

/-! # Chains on several values and on each alone

A chain goes through its transforms one after the other, each for all values. When it combines its
values at the end only, it succeeds exactly when it does so on each value alone, and combines those
results. Of several failures it reports the one at the first transform at which any value fails,
and among the values that fail there the first one.
-/
namespace ResourceLoom.Transform

/-- What a chain makes of one value; its first transform has the given position. -/
def alone : (index : Nat) → List Transform → Document → Except Error Document
  | _, [], v => .ok v
  | index, t :: rest, v =>
    match t.single v with
    | .error e => .error ((e.within (.resolver t.typeName)).within (.transform index))
    | .ok w => alone (index + 1) rest w

/-- The value gets to the given step of the chain, which makes nothing of it. -/
def Stops : List Transform → Document → (step : Nat) → (inner : Error) → Prop
  | [], _, _, _ => False
  | t :: _, v, 0, inner => t.single v = .error inner
  | t :: rest, v, step + 1, inner => ∃ w, t.single v = .ok w ∧ Stops rest w step inner

/-- The run of the chain on the value alone fails at the given step. -/
def FailsAt (chain : List Transform) (v : Document) (step : Nat) (inner : Error) : Prop :=
  ∃ t, chain[step]? = some t ∧
    run chain [v] = .error ((inner.within (.resolver t.typeName)).within (.transform step))

/-- The value at a position fails at the given step when the chain is run on it alone. -/
def FailsIn (chain : List Transform) (values : List Document) (step position : Nat) : Prop :=
  ∃ v inner, values[position]? = some v ∧ FailsAt chain v step inner

section Alone

variable {chain : List Transform} {v : Document} {step : Nat} {inner : Error}

theorem runFrom_singleton (index : Nat) (chain : List Transform) (v : Document) :
    runFrom index chain [v] = (fun w => [w]) <$> alone index chain v := by
  induction chain generalizing index v with
  | nil => rfl
  | cons t rest ih =>
    have bare := resolveBare_singleton t v
    cases made : t.single v with
    | error e =>
      rw [made] at bare
      simp only [runFrom, resolve_of_error bare, alone, made]
      rfl
    | ok w =>
      rw [made] at bare
      simp only [runFrom, resolve_of_ok bare, alone, made, ih]

theorem run_singleton (chain : List Transform) (v : Document) :
    run chain [v] = alone 0 chain v := by
  rw [run, runFrom_singleton]
  cases alone 0 chain v <;> rfl

theorem alone_of_stops (h : Stops chain v step inner) (index : Nat) :
    ∃ t, chain[step]? = some t ∧ alone index chain v =
      .error ((inner.within (.resolver t.typeName)).within (.transform (index + step))) := by
  induction chain generalizing v step index with
  | nil => exact h.elim
  | cons t rest ih =>
    cases step with
    | zero =>
      have failed : t.single v = .error inner := h
      exact ⟨t, rfl, by simp [alone, failed]⟩
    | succ step =>
      obtain ⟨w, made, further⟩ := h
      obtain ⟨u, found, failed⟩ := ih further (index + 1)
      refine ⟨u, found, ?_⟩
      rw [alone, made, Nat.add_comm step, ← Nat.add_assoc]
      exact failed

/-- A run of one value succeeds or stops at some step, wherever its chain begins. -/
theorem alone_ok_or_stops (chain : List Transform) (v : Document) :
    (∃ w, ∀ index, alone index chain v = .ok w) ∨ ∃ step inner, Stops chain v step inner := by
  induction chain generalizing v with
  | nil => exact .inl ⟨v, fun index => rfl⟩
  | cons t rest ih =>
    cases made : t.single v with
    | error e => exact .inr ⟨0, e, made⟩
    | ok w =>
      rcases ih w with ⟨result, done⟩ | ⟨step, inner, further⟩
      · exact .inl ⟨result, fun index => by rw [alone, made]; exact done (index + 1)⟩
      · exact .inr ⟨step + 1, inner, w, made, further⟩

theorem failsAt_iff_stops : FailsAt chain v step inner ↔ Stops chain v step inner := by
  constructor
  · rintro ⟨t, found, failed⟩
    rw [run_singleton] at failed
    rcases alone_ok_or_stops chain v with ⟨w, done⟩ | ⟨other, cause, stops⟩
    · rw [done] at failed
      cases failed
    · obtain ⟨u, foundOther, failedOther⟩ := alone_of_stops stops 0
      rw [failed] at failedOther
      simp only [Nat.zero_add, Error.within, Except.error.injEq, Error.mk.injEq, List.cons.injEq,
        Place.transform.injEq] at failedOther
      obtain ⟨⟨rfl, -, samePlaces⟩, sameCause⟩ := failedOther
      have sameInner : inner = cause := by
        cases inner
        cases cause
        simp_all
      exact sameInner ▸ stops
  · intro stops
    obtain ⟨t, found, failed⟩ := alone_of_stops stops 0
    rw [Nat.zero_add] at failed
    exact ⟨t, found, (run_singleton chain v).trans failed⟩

end Alone

section Several

variable {t : Transform} {chain : List Transform} {values next : List Document}
  {step position : Nat}

/-- The value at a position stops at the given step. -/
def StopsIn (chain : List Transform) (values : List Document) (step position : Nat) : Prop :=
  ∃ v inner, values[position]? = some v ∧ Stops chain v step inner

theorem failsIn_eq_stopsIn : FailsIn chain values = StopsIn chain values := by
  funext step position
  simp only [FailsIn, StopsIn, failsAt_iff_stops]

theorem getElem?_of_singles (made : values.map t.single = next.map .ok) (position : Nat) :
    (values[position]?).map t.single = (next[position]?).map .ok := by
  rw [← List.getElem?_map, made, List.getElem?_map]

theorem not_stopsIn_zero (made : values.map t.single = next.map .ok) :
    ¬ StopsIn (t :: chain) values 0 position := by
  rintro ⟨v, inner, found, failed⟩
  have here := getElem?_of_singles made position
  rw [found, Option.map_some, show t.single v = .error inner from failed] at here
  cases after : next[position]? <;> simp [after] at here

theorem stopsIn_succ_iff (made : values.map t.single = next.map .ok) :
    StopsIn (t :: chain) values (step + 1) position ↔ StopsIn chain next step position := by
  have here := getElem?_of_singles made position
  constructor
  · rintro ⟨v, inner, found, w, single, further⟩
    rw [found, Option.map_some, single] at here
    obtain ⟨u, foundNext, same⟩ := Option.map_eq_some_iff.1 here.symm
    cases same
    exact ⟨w, inner, foundNext, further⟩
  · rintro ⟨w, inner, foundNext, further⟩
    rw [foundNext, Option.map_some] at here
    obtain ⟨v, found, single⟩ := Option.map_eq_some_iff.1 here
    exact ⟨v, inner, found, w, single, further⟩

theorem map_alone_of_singles (made : values.map t.single = next.map .ok) (index : Nat) :
    values.map (alone index (t :: chain)) = next.map (alone (index + 1) chain) := by
  refine List.ext_getElem? fun position => ?_
  have here := getElem?_of_singles made position
  rw [List.getElem?_map, List.getElem?_map]
  cases found : values[position]? with
  | none =>
    rw [found, Option.map_none] at here
    rw [Option.map_eq_none_iff.1 here.symm, Option.map_none, Option.map_none]
  | some v =>
    rw [found, Option.map_some] at here
    obtain ⟨w, foundNext, single⟩ := Option.map_eq_some_iff.1 here.symm
    rw [foundNext, Option.map_some, Option.map_some, alone, ← single]

/-- The first step at which any value stops, and the first value that stops there. -/
structure FirstStop (chain : List Transform) (values : List Document) (step position : Nat) :
    Prop where
  leastStep : IsLeast {k | ∃ i, StopsIn chain values k i} step
  leastPosition : IsLeast {i | StopsIn chain values step i} position

theorem FirstStop.succ (made : values.map t.single = next.map .ok)
    (h : FirstStop chain next step position) :
    FirstStop (t :: chain) values (step + 1) position := by
  obtain ⟨⟨⟨i, stops⟩, leastStep⟩, ⟨there, leastPosition⟩⟩ := h
  refine ⟨⟨⟨i, (stopsIn_succ_iff made).2 stops⟩, ?_⟩, ⟨(stopsIn_succ_iff made).2 there, ?_⟩⟩
  · rintro k ⟨j, stopsLater⟩
    cases k with
    | zero => exact absurd stopsLater (not_stopsIn_zero made)
    | succ k => exact Nat.succ_le_succ (leastStep ⟨j, (stopsIn_succ_iff made).1 stopsLater⟩)
  · intro j stopsLater
    exact leastPosition ((stopsIn_succ_iff made).1 stopsLater)

theorem FirstStop.zero {before after results : List Document} {v : Document} {inner : Error}
    (passed : before.map t.single = results.map .ok) (failed : t.single v = .error inner) :
    FirstStop (t :: chain) (before ++ v :: after) 0 before.length := by
  have here : StopsIn (t :: chain) (before ++ v :: after) 0 before.length :=
    ⟨v, inner, by simp, failed⟩
  refine ⟨⟨⟨_, here⟩, fun k _ => Nat.zero_le k⟩, ⟨here, fun j stops => ?_⟩⟩
  obtain ⟨u, cause, found, failedEarlier⟩ := stops
  refine Nat.not_lt.1 fun earlier => ?_
  rw [List.getElem?_append_left earlier] at found
  have stopsBefore : StopsIn (t :: chain) before 0 j := ⟨u, cause, found, failedEarlier⟩
  exact not_stopsIn_zero passed stopsBefore

/-- On several values a chain that combines none of them gives the results of each value alone, or
it reports the first stop. -/
theorem runFrom_several (separate : ∀ t ∈ chain, ¬ t.Combines) (several : 2 ≤ values.length)
    (index : Nat) :
    (∃ results, values.map (alone index chain) = results.map .ok ∧
      runFrom index chain values = .ok results) ∨
    ∃ step position t v inner, FirstStop chain values step position ∧
      chain[step]? = some t ∧ values[position]? = some v ∧ Stops chain v step inner ∧
      runFrom index chain values = .error
        (((atValue position inner).within (.resolver t.typeName)).within
          (.transform (index + step))) := by
  -- The values before and after a passed step correspond one to one, so the position of a stop in
  -- the rest of the chain is the position of the value that it came from.
  induction chain generalizing values index with
  | nil => exact .inl ⟨values, rfl, rfl⟩
  | cons t rest ih =>
    obtain ⟨first, others⟩ := List.forall_mem_cons.1 separate
    rcases resolveBare_several_cases first several with ⟨next, made, resolved⟩ |
      ⟨before, v, after, results, inner, rfl, passed, failed, reported⟩
    · have sameLength : next.length = values.length := by
        simpa using (congrArg List.length made).symm
      have go : runFrom index (t :: rest) values = runFrom (index + 1) rest next := by
        rw [runFrom, resolve_of_ok resolved]
      rw [go]
      rcases ih others (sameLength ▸ several) (index + 1) with ⟨results, each, all⟩ |
        ⟨step, position, u, w, inner, least, foundStep, foundValue, stops, reported⟩
      · exact .inl ⟨results, (map_alone_of_singles made index).trans each, all⟩
      · have here := getElem?_of_singles made position
        rw [foundValue, Option.map_some] at here
        obtain ⟨v, found, single⟩ := Option.map_eq_some_iff.1 here
        refine .inr ⟨step + 1, position, u, v, inner, least.succ made, foundStep, found,
          ⟨w, single, stops⟩, ?_⟩
        rw [reported, Nat.add_comm step, Nat.add_assoc]
    · refine .inr ⟨0, before.length, t, v, inner, .zero passed failed, rfl, by simp, failed, ?_⟩
      rw [runFrom, resolve_of_error reported]
      rfl

theorem run_append_combine_of_ok {first : List Transform} {results : List Document}
    (reached : runFrom 0 first values = .ok results) (nonempty : results ≠ []) (template : String) :
    run (first ++ [.combine (.string template)]) values =
      .ok (.string (Template.format template results)) := by
  cases results with
  | nil => exact absurd rfl nonempty
  | cons v rest =>
    rw [run, runFrom_append, reached]
    rfl

/-- The results of all the values alone are combined, or the first failure is reported. -/
theorem run_append_combine_cases (separate : ∀ t ∈ chain, ¬ t.Combines)
    (several : 2 ≤ values.length) (template : String) :
    (∃ results : List Document, (values.map fun v => run chain [v]) = results.map .ok ∧
      run (chain ++ [.combine (.string template)]) values =
        .ok (.string (Template.format template results))) ∨
    ∃ step position t v inner, IsLeast {k | ∃ i, FailsIn chain values k i} step ∧
      IsLeast {i | FailsIn chain values step i} position ∧
      chain[step]? = some t ∧ values[position]? = some v ∧
      run chain [v] = .error ((inner.within (.resolver t.typeName)).within (.transform step)) ∧
      run (chain ++ [.combine (.string template)]) values =
        .error (((atValue position inner).within (.resolver t.typeName)).within
          (.transform step)) := by
  simp only [failsIn_eq_stopsIn, run_singleton]
  rcases runFrom_several separate several 0 with ⟨results, each, all⟩ |
    ⟨step, position, t, v, inner, least, found, there, stops, reported⟩
  · have nonempty : results ≠ [] := by
      rintro rfl
      rw [List.map_eq_nil_iff.1 each] at several
      exact absurd several (by decide)
    exact .inl ⟨results, each, run_append_combine_of_ok all nonempty template⟩
  · obtain ⟨u, foundAlone, failed⟩ := alone_of_stops stops 0
    rw [found] at foundAlone
    cases foundAlone
    rw [Nat.zero_add] at failed reported
    exact .inr ⟨step, position, t, v, inner, least.leastStep, least.leastPosition, found, there,
      failed, run_append_of_error reported _⟩

/-- A chain that ends with a combination of several values does what it does on each value alone:
it combines the results when there are all of them, and otherwise it reports the failure at the
least step, of the first value that fails there. -/
theorem run_append_combine (separate : ∀ t ∈ chain, ¬ t.Combines) (several : 2 ≤ values.length)
    (template : String) :
    ((∃ w, run (chain ++ [.combine (.string template)]) values = .ok w) ↔
      ∀ v ∈ values, ∃ w, run chain [v] = .ok w) ∧
    (∀ results : List Document, (values.map fun v => run chain [v]) = results.map .ok →
      run (chain ++ [.combine (.string template)]) values =
        .ok (.string (Template.format template results))) ∧
    (∀ v e, run chain [v] = .error e → ∃ step inner, FailsAt chain v step inner) ∧
    ((∃ v ∈ values, ∃ e, run chain [v] = .error e) →
      ∃ step position t v inner, IsLeast {k | ∃ i, FailsIn chain values k i} step ∧
        IsLeast {i | FailsIn chain values step i} position ∧
        chain[step]? = some t ∧ values[position]? = some v ∧
        run chain [v] =
          .error ((inner.within (.resolver t.typeName)).within (.transform step)) ∧
        run (chain ++ [.combine (.string template)]) values =
          .error (((atValue position inner).within (.resolver t.typeName)).within
            (.transform step))) := by
  have stopped (v : Document) (e : Error) (failed : run chain [v] = .error e) :
      ∃ step inner, FailsAt chain v step inner := by
    rcases alone_ok_or_stops chain v with ⟨w, done⟩ | ⟨step, inner, stops⟩
    · rw [run_singleton, done] at failed
      cases failed
    · exact ⟨step, inner, failsAt_iff_stops.2 stops⟩
  rcases run_append_combine_cases separate several template with ⟨results, each, combined⟩ |
    ⟨step, position, t, v, inner, leastStep, leastPosition, found, there, failed, reported⟩
  · have succeed := exists_ok_of_mem each
    refine ⟨⟨fun _ => succeed, fun _ => ⟨_, combined⟩⟩, fun others each' => ?_, stopped, ?_⟩
    · have same : results = others :=
        (List.map_inj_right fun _ _ => Except.ok.inj).1 (each.symm.trans each')
      rw [← same, combined]
    · rintro ⟨v, mem, e, failed⟩
      obtain ⟨w, done⟩ := succeed v mem
      rw [done] at failed
      cases failed
  · have mem : v ∈ values := List.mem_of_getElem? there
    have notAll : ¬ ∀ v ∈ values, ∃ w, run chain [v] = .ok w := by
      intro all
      obtain ⟨w, done⟩ := all v mem
      rw [done] at failed
      cases failed
    refine ⟨⟨?_, fun all => absurd all notAll⟩, fun results each => ?_, stopped, fun _ => ?_⟩
    · rintro ⟨w, done⟩
      rw [reported] at done
      cases done
    · exact absurd (exists_ok_of_mem each) notAll
    · exact ⟨step, position, t, v, inner, leastStep, leastPosition, found, there, failed, reported⟩

/-- The first reading is too great to be doubled, the second cannot be read at all. -/
def readings : List Document := [.string "9223372036854775807", .string "x"]

/-- The second value is reported, because it fails at an earlier step than the first. -/
theorem run_append_combine_readings :
    (∀ t ∈ doubling, ¬ t.Combines) ∧ 2 ≤ readings.length ∧
    (∃ v ∈ readings, ∃ e, run doubling [v] = .error e) ∧
    (∃ step position, IsLeast {k | ∃ i, FailsIn doubling readings k i} step ∧
      IsLeast {i | FailsIn doubling readings step i} position ∧
      ∃ t inner, run (doubling ++ [.combine (.string "%d-%d")]) readings =
        .error (((atValue position inner).within (.resolver t)).within (.transform step))) ∧
    run (doubling ++ [.combine (.string "%d-%d")]) readings =
      .error ⟨[.transform 0, .resolver "convert", .value 1],
        .parseFailed "x" .int (.integer .invalidDigit)⟩ := by
  have separate : ∀ t ∈ doubling, ¬ t.Combines := by simp [doubling, Combines]
  have several : 2 ≤ readings.length := by decide
  have fails : ∃ v ∈ readings, ∃ e, run doubling [v] = .error e :=
    ⟨.string "x", by simp [readings], _, rfl⟩
  obtain ⟨-, -, -, first⟩ := run_append_combine separate several "%d-%d"
  obtain ⟨step, position, t, v, inner, leastStep, leastPosition, -, -, -, reported⟩ := first fails
  exact ⟨separate, several, fails, ⟨step, position, leastStep, leastPosition, t.typeName, inner,
    reported⟩, rfl⟩

end Several

end ResourceLoom.Transform
