import ResourceLoom.Proofs.DocumentPaths

/-! # How lookups end

A lookup follows its path as far as the document has it. Behind that it finds either a container
without the next child, and then the value is absent, or a value of another kind than the next
segment steps into, and then the document is of the wrong shape. So a lookup is answered wherever
the part of the document that the path reaches has the right shape. For the text of a path there are
three cases: a value that it leads to, the absence of one, and a fault in the text or the document.
-/
namespace ResourceLoom

/-- What is said of a value of another kind than the segment steps into. -/
def Segment.misfit (behind : Path) : Segment → PathError
  | field _ => .notAnObject behind
  | index _ => .notAnArray behind

/-- The fault is another one than that nothing stands at the path. -/
def PathError.NotMissing (fault : PathError) : Prop := ∀ path, fault ≠ .notFound path

theorem Path.empty_or_malformed_of_parse {text : String} {fault : PathError}
    (h : parse text = .error fault) :
    fault = .emptyPath ∨ ∃ inner position, fault = .malformed text inner position := by
  unfold parse at h
  split at h <;> cases h
  · exact .inr ⟨_, _, rfl⟩
  · exact .inl rfl

theorem Path.notMissing_of_parse {text : String} {fault : PathError}
    (h : parse text = .error fault) : fault.NotMissing := by
  obtain rfl | ⟨inner, position, rfl⟩ := empty_or_malformed_of_parse h <;> exact nofun

namespace Document

variable {x c w : Document} {s t : Segment} {path p q : Path} {found : Option Document}

/-- Every value that a part of the path leads to is of the kind that the next segment steps into. -/
def Readable : Document → Path → Prop
  | _, [] => True
  | x, s :: rest => x.Accepts s ∧ ∀ c, x.child? s = some c → c.Readable rest

namespace Readable

theorem of_append (h : x.Readable (p ++ q)) : x.Readable p := by
  induction p generalizing x with
  | nil => trivial
  | cons s rest ih => exact ⟨h.1, fun c hc => ih (h.2 c hc)⟩

/-- What a last segment is called does not matter. -/
theorem beside (h : x.Readable (p ++ [s])) (alike : s.Alike t) : x.Readable (p ++ [t]) := by
  induction p generalizing x with
  | nil => exact ⟨(accepts_iff_of_alike alike).1 h.1, fun c hc => trivial⟩
  | cons a rest ih => exact ⟨h.1, fun c hc => ih (h.2 c hc)⟩

end Readable

theorem readable_of_reach (h : x.reach path = some w) : x.Readable path := by
  induction path generalizing x with
  | nil => trivial
  | cons s rest ih =>
    obtain ⟨c, hc, hw⟩ := Option.bind_eq_some_iff.1 h
    refine ⟨accepts_of_child? hc, fun d hd => ?_⟩
    rw [hc, Option.some.injEq] at hd
    exact hd ▸ ih hw

section Get

variable (seen rest : Path)

theorem getFrom_of_child? (h : x.child? s = some c) :
    getFrom seen (s :: rest) x = getFrom (seen ++ [s]) rest c := by
  cases s <;> cases x <;> simp_all [getFrom, child?, fields, items]

theorem getFrom_of_absent (accepts : x.Accepts s) (absent : x.child? s = none) :
    getFrom seen (s :: rest) x = .error (.notFound (seen ++ [s])) := by
  cases s <;> cases x <;> simp_all [getFrom, child?, Accepts]

theorem getFrom_of_not_accepts (h : ¬ x.Accepts s) :
    getFrom seen (s :: rest) x = .error (s.misfit seen) := by
  cases s <;> cases x <;> simp_all [getFrom, Accepts, Segment.misfit]

end Get

/-- A read that leads to no value says that one is missing where the document is of the right shape,
and else what it is that does not fit. -/
theorem getFrom_of_reach_eq_none (seen : Path) (h : x.reach path = none) :
    (x.Readable path ∧ ∃ missing, getFrom seen path x = .error (.notFound missing)) ∨
      ¬ x.Readable path ∧ ∃ s behind, getFrom seen path x = .error (Segment.misfit behind s) := by
  induction path generalizing seen x with
  | nil => cases h
  | cons s rest ih =>
    by_cases accepts : x.Accepts s
    · cases hc : x.child? s with
      | none =>
        have readable : x.Readable (s :: rest) := ⟨accepts, fun c there => by simp [hc] at there⟩
        exact .inl ⟨readable, _, getFrom_of_absent seen rest accepts hc⟩
      | some c =>
        have below : x.Readable (s :: rest) ↔ c.Readable rest := by simp [Readable, accepts, hc]
        rw [below, getFrom_of_child? seen rest hc]
        exact ih (seen ++ [s]) (by simpa [reach, hc] using h)
    · exact .inr ⟨fun readable => accepts readable.1, s, seen,
        getFrom_of_not_accepts seen rest accepts⟩

/-- A lookup is answered where the document has the right shape, and the answer is what the path
leads to. -/
theorem find_eq_ok_iff : x.find path = .ok found ↔ x.Readable path ∧ found = x.reach path := by
  cases reached : x.reach path with
  | some w =>
    have read : x.get path = .ok w := get_eq_ok_iff.2 reached
    simp [find, read, readable_of_reach reached, eq_comm]
  | none =>
    rcases getFrom_of_reach_eq_none [] reached with
      ⟨readable, missing, failed⟩ | ⟨unreadable, s, behind, failed⟩
    · simp [find, get, failed, readable, eq_comm]
    · cases s <;> simp [find, get, failed, unreadable, Segment.misfit]

theorem notMissing_of_find {fault : PathError} (h : x.find path = .error fault) :
    fault.NotMissing := by
  unfold find at h
  split at h
  · cases h
  · cases h
  · next other failed =>
    cases h
    rintro missing rfl
    exact other missing rfl

theorem notMissing_of_lookup {text : String} {fault : PathError}
    (h : x.lookup text = .error fault) : fault.NotMissing := by
  cases parsed : Path.parse text with
  | error refused =>
    rw [lookup, parsed] at h
    cases h
    exact Path.notMissing_of_parse parsed
  | ok path =>
    rw [lookup, parsed] at h
    exact notMissing_of_find h

section Stops

variable {before after seen : Path} {text : String} {fault : PathError}

theorem getFrom_append (reached : x.reach before = some w) (seen rest : Path) :
    getFrom seen (before ++ rest) x = getFrom (seen ++ before) rest w := by
  induction before generalizing seen x with
  | nil =>
    obtain rfl : x = w := Option.some.inj reached
    rw [List.nil_append, List.append_nil]
  | cons s before ih =>
    obtain ⟨c, hc, below⟩ := Option.bind_eq_some_iff.1 reached
    rw [List.cons_append, getFrom_of_child? seen (before ++ rest) hc, ih below, ← List.append_cons]

theorem get_of_absent (reached : x.reach before = some w) (accepts : w.Accepts s)
    (absent : w.child? s = none) (after : Path) :
    x.get (before ++ s :: after) = .error (.notFound (before ++ [s])) := by
  rw [get, getFrom_append reached, List.nil_append, getFrom_of_absent before after accepts absent]

theorem get_of_misfit (reached : x.reach before = some w) (other : ¬ w.Accepts s) (after : Path) :
    x.get (before ++ s :: after) = .error (s.misfit before) := by
  rw [get, getFrom_append reached, List.nil_append, getFrom_of_not_accepts before after other]

/-- A path that leads to no value leads to a last one, which does not have the next child. -/
theorem exists_last_reached (h : x.reach path = none) : ∃ before s after w,
    path = before ++ s :: after ∧ x.reach before = some w ∧ w.child? s = none := by
  induction path generalizing x with
  | nil => cases h
  | cons s rest ih =>
    cases hc : x.child? s with
    | none => exact ⟨[], s, rest, x, rfl, rfl, hc⟩
    | some c =>
      have below : c.reach rest = none := by simpa [reach, hc] using h
      obtain ⟨before, t, after, w, rfl, reached, absent⟩ := ih below
      exact ⟨s :: before, t, after, w, rfl, by simp [reach, hc, reached], absent⟩

/-- A value stands where the text says. -/
def Holds (x : Document) (text : String) (w : Document) : Prop :=
  ∃ path, Path.parse text = .ok path ∧ x.reach path = some w

/-- The path of the text leads to a container without the next child. -/
def Misses (x : Document) (text : String) : Prop :=
  ∃ before s after w, Path.parse text = .ok (before ++ s :: after) ∧ x.reach before = some w ∧
    w.Accepts s ∧ w.child? s = none

/-- The text is no path, or its path leads to a value of another kind than the next segment steps
into. -/
inductive Bars (x : Document) (text : String) : PathError → Prop where
  | malformed {fault : PathError} (parsed : Path.parse text = .error fault) : Bars x text fault
  | misfit {before after : Path} {s : Segment} {w : Document}
      (parsed : Path.parse text = .ok (before ++ s :: after)) (reached : x.reach before = some w)
      (other : ¬ w.Accepts s) : Bars x text (s.misfit before)

theorem valueAt_of_holds (h : x.Holds text w) : x.valueAt text = .ok w := by
  obtain ⟨path, parsed, reached⟩ := h
  rw [valueAt, parsed]
  exact get_eq_ok_iff.2 reached

theorem valueAt_of_misses (h : x.Misses text) :
    ∃ missing, x.valueAt text = .error (.notFound missing) := by
  obtain ⟨before, s, after, w, parsed, reached, accepts, absent⟩ := h
  rw [valueAt, parsed]
  exact ⟨_, get_of_absent reached accepts absent after⟩

theorem valueAt_of_bars (h : x.Bars text fault) : x.valueAt text = .error fault := by
  cases h with
  | malformed parsed =>
    rw [valueAt, parsed]
    rfl
  | misfit parsed reached other =>
    rw [valueAt, parsed]
    exact get_of_misfit reached other _

theorem Bars.notMissing (h : x.Bars text fault) : fault.NotMissing := by
  cases h with
  | malformed parsed => exact Path.notMissing_of_parse parsed
  | @misfit before after s w parsed reached other => cases s <;> exact nofun

/-- A lookup is a read for which an absent value is no error. -/
theorem lookup_eq_valueAt (x : Document) (text : String) :
    x.lookup text = match x.valueAt text with
      | .ok w => .ok (some w)
      | .error (.notFound _) => .ok none
      | .error fault => .error fault := by
  cases parsed : Path.parse text with
  | ok path =>
    rw [lookup, valueAt, parsed]
    rfl
  | error fault =>
    have other := Path.notMissing_of_parse parsed
    rw [lookup, valueAt, parsed]
    cases fault with
    | notFound missing => exact absurd rfl (other missing)
    | _ => rfl

theorem lookup_of_holds (h : x.Holds text w) : x.lookup text = .ok (some w) := by
  rw [lookup_eq_valueAt, valueAt_of_holds h]

theorem lookup_of_misses (h : x.Misses text) : x.lookup text = .ok none := by
  obtain ⟨missing, read⟩ := valueAt_of_misses h
  rw [lookup_eq_valueAt, read]

theorem lookup_of_bars (h : x.Bars text fault) : x.lookup text = .error fault := by
  rw [lookup_eq_valueAt, valueAt_of_bars h]
  have other := h.notMissing
  cases fault with
  | notFound missing => exact absurd rfl (other missing)
  | _ => rfl

/-- A text leads to a value, to a place without one, or to a fault. -/
theorem holds_or_misses_or_bars (x : Document) (text : String) :
    (∃ w, x.Holds text w) ∨ x.Misses text ∨ ∃ fault, x.Bars text fault := by
  cases parsed : Path.parse text with
  | error fault => exact .inr (.inr ⟨fault, .malformed parsed⟩)
  | ok path =>
    cases reached : x.reach path with
    | some w => exact .inl ⟨w, path, parsed, reached⟩
    | none =>
      obtain ⟨before, s, after, w, rfl, last, absent⟩ := exists_last_reached reached
      by_cases accepts : w.Accepts s
      · exact .inr (.inl ⟨before, s, after, w, parsed, last, accepts, absent⟩)
      · exact .inr (.inr ⟨_, .misfit parsed last accepts⟩)

theorem stringAt_of_holds {s : String} (h : x.Holds text (string s)) : x.stringAt text = .ok s := by
  rw [stringAt, valueAt_of_holds h]
  rfl

theorem stringAt_of_other (h : x.Holds text w) (other : ∀ s, w ≠ string s) :
    x.stringAt text = .error (.typeMismatch text "string" w.shapeName) := by
  rw [stringAt, valueAt_of_holds h]
  cases w with
  | string s => exact absurd rfl (other s)
  | _ => rfl

theorem stringAt_of_error (h : x.valueAt text = .error fault) : x.stringAt text = .error fault := by
  rw [stringAt, h]
  rfl

theorem integerAt_of_holds {n : Int64} (h : x.Holds text (int n)) : x.integerAt text = .ok n := by
  rw [integerAt, valueAt_of_holds h]
  rfl

theorem integerAt_of_other (h : x.Holds text w) (other : ∀ n, w ≠ int n) :
    x.integerAt text = .error (.typeMismatch text "integer" w.shapeName) := by
  rw [integerAt, valueAt_of_holds h]
  cases w with
  | number number =>
    cases number with
    | int n => exact absurd rfl (other n)
    | _ => rfl
  | _ => rfl

theorem integerAt_of_error (h : x.valueAt text = .error fault) :
    x.integerAt text = .error fault := by
  rw [integerAt, h]
  rfl

end Stops

end Document
end ResourceLoom
