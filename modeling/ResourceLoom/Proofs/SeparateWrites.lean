import ResourceLoom.Proofs.WriteSequences

/-! # Writes apart from each other

Two paths part at fields when the segments of their first difference are names of fields. Then a
write at the one leaves what the other leads to as it was, whatever the document is on the way. Of
several writes that part from each other in this way, none is seen at the path of another, and all
of them leave alone what parts from them.
-/
namespace ResourceLoom

/-- At their first difference, both paths name a field. -/
def Path.PartsAtFields (p q : Path) : Prop :=
  ∃ (shared : Path) (a b : String) (below beside : Path),
    p = shared ++ .field a :: below ∧ q = shared ++ .field b :: beside ∧ a ≠ b

theorem Path.PartsAtFields.symm {p q : Path} (h : p.PartsAtFields q) : q.PartsAtFields p := by
  obtain ⟨shared, a, b, below, beside, hp, hq, hne⟩ := h
  exact ⟨shared, b, a, beside, below, hq, hp, hne.symm⟩

theorem Path.partsAtFields_cons {a b : String} {p q : Path} :
    Path.PartsAtFields (.field a :: p) (.field b :: q) ↔ a ≠ b ∨ p.PartsAtFields q := by
  constructor
  · rintro ⟨shared, c, d, below, beside, hp, hq, hne⟩
    cases shared with
    | nil =>
      simp only [List.nil_append, List.cons.injEq, Segment.field.injEq] at hp hq
      exact .inl (by rw [hp.1, hq.1]; exact hne)
    | cons s shared =>
      simp only [List.cons_append, List.cons.injEq] at hp hq
      exact .inr ⟨shared, c, d, below, beside, hp.2, hq.2, hne⟩
  · intro h
    by_cases same : a = b
    · obtain ⟨shared, c, d, below, beside, rfl, rfl, hne⟩ := h.resolve_left (· same)
      exact ⟨.field a :: shared, c, d, below, beside, rfl, by rw [same]; rfl, hne⟩
    · exact ⟨[], a, b, p, q, rfl, rfl, same⟩

/-- A path and the value that is put there, if any. -/
abbrev Seed := Path × Option Document

namespace Document

variable {x y : Document} {p q : Path} {seeds : List Seed} {v : Option Document}

/-- The path leads to the same value in both documents, or to none in either. -/
def SameAt (path : Path) (x y : Document) : Prop := ∀ v, x.get path = .ok v ↔ y.get path = .ok v

theorem sameAt_iff_reach : SameAt p x y ↔ x.reach p = y.reach p := by
  rw [Option.ext_iff]
  exact forall_congr' fun v => by rw [get_eq_ok_iff, get_eq_ok_iff]

/-- The second document has the given value at the path, or what the first has where none is
given. -/
structure SeededAt (path : Path) (given : Option Document) (x y : Document) : Prop where
  written : ∀ v, given = some v → y.get path = .ok v
  kept : given = none → SameAt path x y

theorem seededAt_iff_reach : SeededAt p v x y ↔ y.reach p = v.or (x.reach p) := by
  constructor
  · rintro ⟨written, kept⟩
    cases v with
    | none => exact (sameAt_iff_reach.1 (kept rfl)).symm
    | some w => exact get_eq_ok_iff.1 (written w rfl)
  · intro h
    refine ⟨?_, ?_⟩
    · rintro w rfl
      exact get_eq_ok_iff.2 h
    · rintro rfl
      exact sameAt_iff_reach.2 h.symm

/-- A write at a path that parts from another leaves what that leads to. -/
theorem reach_seed_of_parts (h : p.PartsAtFields q) (x : Document) (v : Option Document) :
    (x.seed p v).reach q = x.reach q := by
  cases v with
  | none => rfl
  | some v =>
    obtain ⟨shared, a, b, below, beside, rfl, rfl, hne⟩ := h
    exact reach_put_of_field_ne hne x shared below beside v

theorem reach_seed (x : Document) (p : Path) (v : Option Document) :
    (x.seed p v).reach p = v.or (x.reach p) := by
  cases v with
  | none => rfl
  | some v => exact reach_put x p v

/-- A seed that takes over what is there where nothing is given is the same seed. -/
theorem seed_or_reach (x : Document) (p : Path) (v : Option Document) :
    x.seed p (v.or (x.reach p)) = x.seed p v := by
  cases v with
  | some v => rfl
  | none =>
    cases there : x.reach p with
    | none => rfl
    | some w => exact put_of_reach there

def seedAll (x : Document) (seeds : List Seed) : Document :=
  seeds.foldl (fun x seed => x.seed seed.1 seed.2) x

@[simp] theorem seedAll_nil (x : Document) : x.seedAll [] = x := rfl

@[simp] theorem seedAll_cons (x : Document) (seed : Seed) (rest : List Seed) :
    x.seedAll (seed :: rest) = (x.seed seed.1 seed.2).seedAll rest := rfl

/-- Seeds are a sequence of writes, and so seeding again changes nothing. -/
theorem seedAll_eq_putAll (seeds : List Seed) (x : Document) :
    x.seedAll seeds = x.putAll (seeds.flatMap fun seed => writeIfSome seed.1 seed.2) := by
  induction seeds generalizing x with
  | nil => rfl
  | cons seed rest ih =>
    rw [seedAll_cons, ih, List.flatMap_cons, putAll_append, putAll_writeIfSome]

theorem seedAll_seedAll (seeds : List Seed) (x : Document) :
    (x.seedAll seeds).seedAll seeds = x.seedAll seeds := by
  simp only [seedAll_eq_putAll, putAll_putAll]

/-- Seeds leave alone what parts from all of them. -/
theorem reach_seedAll_of_parts (apart : ∀ seed ∈ seeds, seed.1.PartsAtFields q) (x : Document) :
    (x.seedAll seeds).reach q = x.reach q := by
  induction seeds generalizing x with
  | nil => rfl
  | cons seed rest ih =>
    obtain ⟨first, others⟩ := List.forall_mem_cons.1 apart
    rw [seedAll_cons, ih others, reach_seed_of_parts first]

/-- Seeds that part from each other are all there in the end. -/
theorem reach_seedAll_of_mem
    (apart : seeds.Pairwise fun first second => first.1.PartsAtFields second.1)
    (mem : (p, v) ∈ seeds) (x : Document) : (x.seedAll seeds).reach p = v.or (x.reach p) := by
  induction seeds generalizing x with
  | nil => cases mem
  | cons seed rest ih =>
    obtain ⟨first, others⟩ := List.pairwise_cons.1 apart
    rcases List.mem_cons.1 mem with rfl | further
    · have later : ∀ seed ∈ rest, seed.1.PartsAtFields p := fun seed h => (first seed h).symm
      rw [seedAll_cons, reach_seedAll_of_parts later, reach_seed]
    · rw [seedAll_cons, ih others further, reach_seed_of_parts (first (p, v) further)]

/-- Seeds that part from each other may take over what is there where nothing is given. -/
theorem seedAll_or_reach
    (apart : seeds.Pairwise fun first second => first.1.PartsAtFields second.1) (x : Document) :
    x.seedAll (seeds.map fun seed => (seed.1, seed.2.or (x.reach seed.1))) = x.seedAll seeds := by
  induction seeds generalizing x with
  | nil => rfl
  | cons seed rest ih =>
    obtain ⟨first, others⟩ := List.pairwise_cons.1 apart
    have unseen : (rest.map fun later => (later.1, later.2.or (x.reach later.1))) =
        rest.map fun later => (later.1, later.2.or ((x.seed seed.1 seed.2).reach later.1)) := by
      refine List.map_congr_left fun later mem => ?_
      rw [reach_seed_of_parts (first later mem)]
    rw [List.map_cons, seedAll_cons, seedAll_cons, seed_or_reach, unseen, ih others]

end Document
end ResourceLoom
