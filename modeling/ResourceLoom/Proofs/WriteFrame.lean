import ResourceLoom.Proofs.DocumentPaths

/-! # The frame of a write

What a write at one path does to what is found at another, where neither path is a prefix of the
other. At the first difference both segments may be of one kind: then the write leaves the values
there alone and at most pads an array with null. Where one is a field and the other a position,
nothing is found any more.
-/
namespace ResourceLoom

/-- Paths of which neither is a prefix of the other have a first difference. -/
theorem Path.exists_first_difference {p q : Path} (hpq : ¬ p <+: q) (hqp : ¬ q <+: p) :
    ∃ (shared : Path) (s t : Segment) (below beside : Path),
      p = shared ++ s :: below ∧ q = shared ++ t :: beside ∧ s ≠ t := by
  induction p generalizing q with
  | nil => exact absurd List.nil_prefix hpq
  | cons s below ih =>
    cases q with
    | nil => exact absurd List.nil_prefix hqp
    | cons t beside =>
      by_cases same : s = t
      · subst same
        have notLonger : ¬ below <+: beside := fun h => hpq (List.cons_prefix_cons.2 ⟨rfl, h⟩)
        have notShorter : ¬ beside <+: below := fun h => hqp (List.cons_prefix_cons.2 ⟨rfl, h⟩)
        obtain ⟨shared, a, b, pa, qb, hp, hq, hne⟩ := ih notLonger notShorter
        exact ⟨s :: shared, a, b, pa, qb, by rw [hp]; rfl, by rw [hq]; rfl, hne⟩
      · exact ⟨[], s, t, below, beside, rfl, rfl, same⟩

namespace Document

variable {root : Document} {s t : Segment}

theorem reach_singleton (x : Document) (s : Segment) : x.reach [s] = x.child? s := by
  cases h : x.child? s <;> simp [reach, h]

theorem reach_split (x : Document) (shared beside : Path) (t : Segment) :
    x.reach (shared ++ t :: beside) = (x.reach (shared ++ [t])).bind (reach · beside) := by
  rw [← reach_append, List.append_assoc, List.singleton_append]

/-- Beside the written path, everything is as before but for the padding of one array. -/
theorem reach_put_of_alike (alike : s.Alike t) (h : s ≠ t) (x : Document)
    (shared below beside : Path) (v : Document) :
    (x.put (shared ++ s :: below) v).reach (shared ++ t :: beside) =
      ((x.reach (shared ++ [t])).or (padding s t)).bind (reach · beside) := by
  induction shared generalizing x with
  | nil => simp [put, reach, reach_singleton, child?_putChild_of_ne alike h]
  | cons a shared ih =>
    simp only [List.cons_append, put]
    rw [reach, child?_putChild_self, Option.bind_some, ih, reach_cons (by simp)]

/-- Beside the written path, a field is found or missing as before. -/
theorem reach_put_of_field_ne {a b : String} (h : a ≠ b) (x : Document)
    (shared below beside : Path) (v : Document) :
    (x.put (shared ++ .field a :: below) v).reach (shared ++ .field b :: beside) =
      x.reach (shared ++ .field b :: beside) := by
  rw [reach_put_of_alike (Segment.alike_field a b) (Segment.field_ne h),
    reach_split x shared beside]
  simp [padding]

/-- A container of the other kind has taken the place of what led to the second path. -/
theorem reach_put_of_not_alike (h : ¬ s.Alike t) (x : Document)
    (shared below beside : Path) (v : Document) :
    (x.put (shared ++ s :: below) v).reach (shared ++ t :: beside) = none := by
  induction shared generalizing x with
  | nil => simp [put, reach, child?_putChild_of_not_alike h]
  | cons a shared ih =>
    simp only [List.cons_append, put]
    rw [reach, child?_putChild_self, Option.bind_some, ih]

theorem reach_put_of_reach (alike : s.Alike t) (h : s ≠ t) {shared beside : Path} {w : Document}
    (before : root.reach (shared ++ t :: beside) = some w) (below : Path) (v : Document) :
    (root.put (shared ++ s :: below) v).reach (shared ++ t :: beside) = some w := by
  rw [reach_split] at before
  obtain ⟨c, hc, hw⟩ := Option.bind_eq_some_iff.1 before
  rw [reach_put_of_alike alike h, hc, Option.some_or, Option.bind_some, hw]

theorem length_le_of_reach_eq_none {shared : Path} {j : UInt64} {elements : List Document}
    (absent : root.reach (shared ++ [.index j]) = none)
    (found : root.reach shared = some (array elements)) : elements.length ≤ j.toNat := by
  rw [reach_append, found, Option.bind_some, reach_singleton] at absent
  exact List.getElem?_eq_none_iff.1 absent

/-- A value that is found only after the write is an element that padding has added. -/
theorem padded_of_reach_put (h : s ≠ t) {shared below beside : Path} {v w : Document}
    (after : (root.put (shared ++ s :: below) v).reach (shared ++ t :: beside) = some w)
    (before : root.reach (shared ++ t :: beside) ≠ some w) :
    w = null ∧ beside = [] ∧ padding s t = some null ∧ root.reach (shared ++ [t]) = none := by
  by_cases alike : s.Alike t
  · rw [reach_put_of_alike alike h] at after
    cases absent : root.reach (shared ++ [t]) with
    | some c =>
      rw [absent, Option.some_or] at after
      rw [reach_split, absent] at before
      exact absurd after before
    | none =>
      rw [absent, Option.none_or] at after
      obtain ⟨c, hc, hw⟩ := Option.bind_eq_some_iff.1 after
      obtain ⟨rfl, -⟩ := padding_eq_some hc
      cases beside with
      | nil => exact ⟨(Option.some.inj hw).symm, rfl, hc, rfl⟩
      | cons a rest => simp [reach_null] at hw
  · simp [reach_put_of_not_alike alike] at after

/-- A write loses nothing beside its path, and all that it adds there is the padding of the array
that it steps into. -/
theorem set_frame {root v : Document} {p q : Path} (ok : (root.set p v).result = .ok ())
    (hpq : ¬ p <+: q) (hqp : ¬ q <+: p) :
    ∃ (shared : Path) (s t : Segment) (below beside : Path),
      p = shared ++ s :: below ∧ q = shared ++ t :: beside ∧ s ≠ t ∧
      (s.Alike t → ∀ w, root.get q = .ok w → (root.set p v).state.get q = .ok w) ∧
      ∀ w, (root.set p v).state.get q = .ok w → root.get q ≠ .ok w →
        w = null ∧ ∃ i j, s = .index i ∧ t = .index j ∧ j < i ∧ beside = [] ∧
          ∀ elements, root.get shared = .ok (array elements) → elements.length ≤ j.toNat := by
  obtain ⟨shared, s, t, below, beside, rfl, rfl, hne⟩ := Path.exists_first_difference hpq hqp
  refine ⟨shared, s, t, below, beside, rfl, rfl, hne, ?_, ?_⟩ <;>
    simp only [set_eq_of_ok ok, Outcome.done, get_eq_ok_iff, ne_eq]
  · exact fun alike w before => reach_put_of_reach alike hne before below v
  · intro w after before
    obtain ⟨hw, hbeside, hpad, absent⟩ := padded_of_reach_put hne after before
    obtain ⟨-, i, j, rfl, rfl, lower⟩ := padding_eq_some hpad
    exact ⟨hw, i, j, rfl, rfl, lower, hbeside, fun _ => length_le_of_reach_eq_none absent⟩

/-- The position between the old end of an array and a new element holds null, if anything. -/
theorem set_frame_onePort :
    (onePort.set (portPath 2) (int 443)).result = .ok () ∧
    ¬ portPath 2 <+: portPath 1 ∧ ¬ portPath 1 <+: portPath 2 ∧
    ∀ w, (onePort.set (portPath 2) (int 443)).state.get (portPath 1) = .ok w → w = null := by
  have ok : (onePort.set (portPath 2) (int 443)).result = .ok () := rfl
  have notAbove : ¬ portPath 2 <+: portPath 1 := by decide
  have notBelow : ¬ portPath 1 <+: portPath 2 := by decide
  obtain ⟨_, _, _, _, _, -, -, -, -, added⟩ := set_frame ok notAbove notBelow
  exact ⟨ok, notAbove, notBelow, fun w after => (added w after nofun).1⟩

end Document
end ResourceLoom
