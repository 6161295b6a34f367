import ResourceLoom.Proofs.WriteFrame

/-! # Sequences of writes

Writes that are made one after the other may overlap: a later one may lie above an earlier one,
below it, or change the kind of a container that the earlier one needed. Whatever they are, a
sequence absorbs each of its own writes made beforehand, and so a second run changes nothing. It
also absorbs a write of the value that it leaves at a path. The proofs follow two documents that
differ at most at a path, which every write keeps apart there and nowhere else.
-/
namespace ResourceLoom

/-- A path and the value that is put there. -/
abbrev Write := Path × Document

namespace Document

variable {x y : Document} {p q : Path} {s t : Segment}

def putAll (x : Document) (writes : List Write) : Document :=
  writes.foldl (fun x w => x.put w.1 w.2) x

@[simp] theorem putAll_nil (x : Document) : x.putAll [] = x := rfl

@[simp] theorem putAll_cons (x : Document) (w : Write) (rest : List Write) :
    x.putAll (w :: rest) = (x.put w.1 w.2).putAll rest := rfl

theorem putAll_append (x : Document) (first second : List Write) :
    x.putAll (first ++ second) = (x.putAll first).putAll second := List.foldl_append

/-- Writes at paths that part with segments of one kind may change places. -/
theorem put_comm (alike : s.Alike t) (h : s ≠ t) (x : Document) (shared p q : Path)
    (v u : Document) :
    (x.put (shared ++ t :: q) u).put (shared ++ s :: p) v =
      (x.put (shared ++ s :: p) v).put (shared ++ t :: q) u := by
  induction shared generalizing x with
  | nil =>
    simp only [List.nil_append, put, child_putChild_of_ne alike h,
      child_putChild_of_ne alike.symm h.symm, putChild_comm alike h]
  | cons a shared ih =>
    simp only [List.cons_append, put, child_putChild_self, putChild_putChild_self, ih]

/-- The documents differ at most at the path and in what a write there replaces. -/
def AgreeOff (p : Path) (x y : Document) : Prop := x.put p null = y.put p null

theorem agreeOff_put (x : Document) (p : Path) (v : Document) : AgreeOff p (x.put p v) x :=
  put_put x p null v

theorem AgreeOff.put_eq (h : AgreeOff p x y) (v : Document) : x.put p v = y.put p v := by
  rw [← put_put x p v null, h, put_put]

theorem AgreeOff.child (h : AgreeOff (s :: p) x y) : AgreeOff p (x.child s) (y.child s) := by
  simpa [AgreeOff, put] using congrArg (Document.child · s) h

theorem AgreeOff.putChild_eq (h : AgreeOff (s :: p) x y) (c : Document) :
    x.putChild s c = y.putChild s c := by
  simpa [put, putChild_putChild_self] using congrArg (putChild · s c) h

theorem AgreeOff.child_eq_of_ne (h : AgreeOff (s :: p) x y) (alike : s.Alike t) (hne : s ≠ t) :
    x.child t = y.child t := by
  rw [← child_putChild_of_ne alike hne null, h.putChild_eq, child_putChild_of_ne alike hne]

/-- Every write keeps two documents in agreement off a path, wherever it goes. -/
theorem AgreeOff.put (h : AgreeOff p x y) (q : Path) (u : Document) :
    AgreeOff p (x.put q u) (y.put q u) := by
  induction p generalizing x y q with
  | nil => rfl
  | cons s p ih =>
    cases q with
    | nil => rfl
    | cons t q =>
      by_cases alike : s.Alike t
      · by_cases same : s = t
        · subst same
          have below : ((x.child s).put q u).put p null = ((y.child s).put q u).put p null :=
            ih h.child q
          simp only [AgreeOff, Document.put, child_putChild_self, putChild_putChild_self, below,
            h.putChild_eq]
        · have above : (x.child s).put p null = (y.child s).put p null := h.child
          simp only [AgreeOff, Document.put, child_putChild_of_ne alike.symm (Ne.symm same),
            putChild_comm alike same, above, h.putChild_eq, h.child_eq_of_ne alike same]
      · -- The container changes its kind, and with that the path is lost on both sides.
        have gone (z d : Document) : ¬ (z.putChild t d).Accepts s :=
          not_accepts_of_not_alike alike (accepts_putChild z t d)
        simp only [AgreeOff, Document.put, child_of_not_accepts (gone _ _),
          putChild_of_not_accepts (gone _ _)]

theorem AgreeOff.putAll (h : AgreeOff p x y) (writes : List Write) :
    AgreeOff p (x.putAll writes) (y.putAll writes) := by
  induction writes generalizing x y with
  | nil => exact h
  | cons w rest ih => exact ih (h.put w.1 w.2)

/-- A sequence of writes absorbs one of its own made before it. -/
theorem putAll_put_of_mem {writes : List Write} {v : Document} (h : (p, v) ∈ writes)
    (x : Document) : (x.put p v).putAll writes = x.putAll writes := by
  obtain ⟨before, after, rfl⟩ := List.append_of_mem h
  have agree := (agreeOff_put x p v).putAll before
  simp only [putAll_append, putAll_cons, agree.put_eq v]

theorem putAll_putAll_of_subset {first writes : List Write} (h : first ⊆ writes) (x : Document) :
    (x.putAll first).putAll writes = x.putAll writes := by
  induction first generalizing x with
  | nil => rfl
  | cons w rest ih =>
    have hw : (w.1, w.2) ∈ writes := h List.mem_cons_self
    rw [putAll_cons, ih (List.subset_of_cons_subset h), putAll_put_of_mem hw]

/-- Making the writes again changes nothing. -/
theorem putAll_putAll (writes : List Write) (x : Document) :
    (x.putAll writes).putAll writes = x.putAll writes :=
  putAll_putAll_of_subset (List.Subset.refl writes) x

/-- What a write leaves at a path depends on what was there and on nothing beside it. -/
theorem reach_put_congr (h : x.reach p = y.reach p) (q : Path) (u : Document) :
    (x.put q u).reach p = (y.put q u).reach p := by
  induction p generalizing x y q with
  | nil => cases h; rfl
  | cons s p ih =>
    cases q with
    | nil => rfl
    | cons t q =>
      by_cases alike : t.Alike s
      · by_cases same : t = s
        · subst same
          simp only [put, reach, child?_putChild_self, Option.bind_some]
          cases p with
          | nil =>
            have hc : x.child? t = y.child? t := by simpa [reach_singleton] using h
            simp [child, hc]
          | cons a p => exact ih (by simpa only [reach_cons (List.cons_ne_nil a p)] using h) q
        · simp only [put, reach, child?_putChild_of_ne alike same]
          cases p with
          | nil =>
            have hc : x.child? s = y.child? s := by simpa [reach_singleton] using h
            rw [hc]
          | cons a p =>
            -- Padding adds null, and below null a longer path leads nowhere.
            have skip (z : Document) : ((z.child? s).or (padding t s)).bind (reach · (a :: p)) =
                z.reach (s :: a :: p) := by
              cases hz : z.child? s with
              | some c => simp [reach, hz]
              | none =>
                cases hp : padding t s with
                | none => simp [reach, hz]
                | some d => simp [reach, hz, (padding_eq_some hp).1]
            rw [skip, skip, h]
      · simp only [put, reach, child?_putChild_of_not_alike alike]

theorem reach_putAll_congr (h : x.reach p = y.reach p) (writes : List Write) :
    (x.putAll writes).reach p = (y.putAll writes).reach p := by
  induction writes generalizing x y with
  | nil => exact h
  | cons w rest ih => exact ih (reach_put_congr h w.1 w.2)

/-- A sequence of writes absorbs the value that it leaves at a path. -/
theorem putAll_put_of_reach {writes : List Write} {w : Document}
    (h : (x.putAll writes).reach p = some w) : (x.put p w).putAll writes = x.putAll writes := by
  have agree := (agreeOff_put x p w).putAll writes
  have left : ((x.put p w).putAll writes).reach p = some w := by
    calc ((x.put p w).putAll writes).reach p
        = ((x.putAll writes).putAll writes).reach p :=
          reach_putAll_congr ((reach_put x p w).trans h.symm) writes
      _ = some w := by rw [putAll_putAll, h]
  rw [← put_of_reach left, agree.put_eq w, put_of_reach h]

/-- The containers on the way are of the kinds that the path needs; only its last child may be
absent. -/
def Fits : Document → Path → Prop
  | _, [] => True
  | x, s :: rest => x.Accepts s ∧ (x.child s).Fits rest

theorem fits_of_reach {w : Document} (h : x.reach p = some w) : x.Fits p := by
  induction p generalizing x with
  | nil => trivial
  | cons s rest ih =>
    obtain ⟨c, hc, hw⟩ := Option.bind_eq_some_iff.1 h
    exact ⟨accepts_of_child? hc, by rw [child_of_child? hc]; exact ih hw⟩

/-- Either a write removes all difference, or what was at the path stays in place or gives way to a
new value there. -/
theorem put_eq_or_reach (h : AgreeOff p x y) (fits : y.Fits p) (there : (x.reach p).isSome)
    (q : Path) (u : Document) :
    x.put q u = y.put q u ∨ ((x.put q u).reach p).isSome ∧ (y.put q u).Fits p := by
  induction p generalizing x y q with
  | nil => exact .inr ⟨rfl, trivial⟩
  | cons s p ih =>
    cases q with
    | nil => exact .inl rfl
    | cons t q =>
      obtain ⟨w, hw⟩ := Option.isSome_iff_exists.1 there
      obtain ⟨c, hc, hcw⟩ := Option.bind_eq_some_iff.1 hw
      by_cases alike : t.Alike s
      · by_cases same : t = s
        · subst same
          have below : ((x.child t).reach p).isSome := by simp [child_of_child? hc, hcw]
          rcases ih h.child fits.2 below q with equal | ⟨reached, kept⟩
          · exact .inl (by simp only [put, equal, h.putChild_eq])
          · refine .inr ⟨by simpa [put, reach] using reached, accepts_putChild _ _ _, ?_⟩
            simpa [put] using kept
        · refine .inr ⟨?_, (accepts_iff_of_alike alike).1 (accepts_putChild _ _ _), ?_⟩
          · simp [put, reach, child?_putChild_of_ne alike same, hc, hcw]
          · simpa only [put, child_putChild_of_ne alike same] using fits.2
      · have hx : ¬ x.Accepts t := not_accepts_of_not_alike alike (accepts_of_child? hc)
        have hy : ¬ y.Accepts t := not_accepts_of_not_alike alike fits.1
        exact .inl (by simp only [put, child_of_not_accepts hx, child_of_not_accepts hy,
          putChild_of_not_accepts hx, putChild_of_not_accepts hy])

/-- Where a sequence of writes loses what is at a path, it does not matter what was there. -/
theorem putAll_eq_of_lost {writes : List Write} (h : AgreeOff p x y) (fits : y.Fits p)
    (there : (x.reach p).isSome) (lost : (x.putAll writes).reach p = none) :
    x.putAll writes = y.putAll writes := by
  induction writes generalizing x y with
  | nil =>
    rw [putAll_nil] at lost
    simp [lost] at there
  | cons w rest ih =>
    rcases put_eq_or_reach h fits there w.1 w.2 with equal | ⟨reached, kept⟩
    · rw [putAll_cons, putAll_cons, equal]
    · exact ih (h.put w.1 w.2) kept reached lost

/-- The document with a value at a path, when there is one. -/
def seed (x : Document) (p : Path) : Option Document → Document
  | none => x
  | some v => x.put p v

@[simp] theorem seed_none (x : Document) (p : Path) : x.seed p none = x := rfl

@[simp] theorem seed_some (x : Document) (p : Path) (v : Document) :
    x.seed p (some v) = x.put p v := rfl

/-- The write of a value at a path, when there is one. -/
def writeIfSome (p : Path) (v : Option Document) : List Write := v.toList.map fun v => (p, v)

theorem putAll_writeIfSome (x : Document) (p : Path) (v : Option Document) :
    x.putAll (writeIfSome p v) = x.seed p v := by
  cases v <;> rfl

/-- Seeding a path with what a sequence of writes has left there gives the same document again. -/
theorem putAll_reseed (fits : x.Fits p) (before : Option Document) (writes : List Write) :
    (x.seed p (((x.seed p before).putAll writes).reach p)).putAll writes =
      (x.seed p before).putAll writes := by
  cases after : ((x.seed p before).putAll writes).reach p with
  | some w =>
    have again : x.seed p (some w) = (x.seed p before).put p w := by
      cases before with
      | none => rfl
      | some v => exact (put_put x p w v).symm
    rw [again, putAll_put_of_reach after]
  | none =>
    cases before with
    | none => rfl
    | some v =>
      exact (putAll_eq_of_lost (agreeOff_put x p v) fits (by simp [reach_put]) after).symm

section Siblings

variable {shared : Path} {a b c : String}

theorem put_seed_comm (h : a ≠ b) (x : Document) (v : Document) (u : Option Document) :
    (x.seed (shared ++ [.field b]) u).put (shared ++ [.field a]) v =
      (x.put (shared ++ [.field a]) v).seed (shared ++ [.field b]) u := by
  cases u with
  | none => rfl
  | some u => exact put_comm (Segment.alike_field a b) (Segment.field_ne h) x shared [] [] v u

theorem seed_comm (h : a ≠ b) (x : Document) (v u : Option Document) :
    (x.seed (shared ++ [.field b]) u).seed (shared ++ [.field a]) v =
      (x.seed (shared ++ [.field a]) v).seed (shared ++ [.field b]) u := by
  cases v with
  | none => rfl
  | some v => exact put_seed_comm h x v u

theorem fits_sibling (h : x.Fits (shared ++ [.field a])) : x.Fits (shared ++ [.field b]) := by
  induction shared generalizing x with
  | nil => exact ⟨(accepts_iff_of_alike (Segment.alike_field a b)).1 h.1, trivial⟩
  | cons s shared ih => exact ⟨h.1, ih h.2⟩

theorem fits_put_sibling (x : Document) (v : Document) :
    (x.put (shared ++ [.field a]) v).Fits (shared ++ [.field b]) :=
  fits_sibling (fits_of_reach (reach_put x (shared ++ [.field a]) v))

theorem fits_seed (h : x.Fits (shared ++ [.field b])) (v : Option Document) :
    (x.seed (shared ++ [.field a]) v).Fits (shared ++ [.field b]) := by
  cases v with
  | none => exact h
  | some v => exact fits_put_sibling x v

/-- Two fields are seeded with what a sequence of writes has left there. One write of the sequence
goes to a third field beside them, and with that the object that holds them is in place whatever the
seeds are. -/
theorem putAll_reseed_fields (hab : a ≠ b) (hca : c ≠ a) (hcb : c ≠ b) {writes : List Write}
    {r : Document} (h : (shared ++ [.field c], r) ∈ writes) (x after : Document)
    (first second : Option Document)
    (hafter : after = ((x.seed (shared ++ [.field a]) first).seed (shared ++ [.field b])
      second).putAll writes) :
    ((x.seed (shared ++ [.field a]) (after.reach (shared ++ [.field a]))).seed
      (shared ++ [.field b]) (after.reach (shared ++ [.field b]))).putAll writes = after := by
  -- The write of the third field may come first; after it, both fields fit.
  let z := x.put (shared ++ [.field c]) r
  have ready (n m : Option Document) :
      ((x.seed (shared ++ [.field a]) n).seed (shared ++ [.field b]) m).putAll writes =
        ((z.seed (shared ++ [.field a]) n).seed (shared ++ [.field b]) m).putAll writes := by
    rw [← putAll_put_of_mem h, put_seed_comm hcb, put_seed_comm hca]
  have reseed_first :
      ((z.seed (shared ++ [.field a]) (after.reach (shared ++ [.field a]))).seed
        (shared ++ [.field b]) second).putAll writes = after := by
    rw [hafter, ready, ← seed_comm hab, ← seed_comm hab]
    exact putAll_reseed (fits_seed (fits_put_sibling x r) second) first writes
  have fits : (z.seed (shared ++ [.field a]) (after.reach (shared ++ [.field a]))).Fits
      (shared ++ [.field b]) := fits_seed (fits_put_sibling x r) _
  have reseed_second := putAll_reseed fits second writes
  rw [reseed_first] at reseed_second
  exact (ready _ _).trans reseed_second

end Siblings

end Document
end ResourceLoom
