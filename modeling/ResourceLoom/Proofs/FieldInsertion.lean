import ResourceLoom.Fields

/-! # Insertion of named values

A second insertion of a key replaces the first, inserting the value that stands at a key changes
nothing, and insertions of different keys commute. No law needs the keys to be in order, so they
hold for every list of fields and not only for those that insertion has built. Entries that are in
order already are left so by insertion. Of several insertions the last one for a key counts, so a
list inserted into another one overrides it key by key.
-/
namespace ResourceLoom.Fields

variable {α : Type}

theorem replace_replace (key : String) (v w : α) (fields : List (String × α)) :
    replace key v (replace key w fields) = replace key v fields := by
  induction fields with
  | nil => rfl
  | cons entry rest ih =>
    obtain ⟨k, u⟩ := entry
    by_cases hk : k = key
    · simp [replace, hk]
    · simp [replace, hk, ih]

theorem replace_place_self {key : String} {fields : List (String × α)} (v w : α)
    (h : find? key fields = none) : replace key v (place key w fields) = place key v fields := by
  induction fields with
  | nil => simp [place, replace]
  | cons entry rest ih =>
    obtain ⟨k, u⟩ := entry
    by_cases hk : k = key
    · simp [find?, hk] at h
    · simp only [find?, hk, if_false] at h
      simp only [place]
      split
      · simp [replace]
      · simp [replace, hk, ih h]

/-- Of two insertions of one key the second counts. -/
theorem insert_insert_self (key : String) (v w : α) (fields : List (String × α)) :
    insert key v (insert key w fields) = insert key v fields := by
  have found : (find? key (insert key w fields)).isSome := by simp
  rw [insert, if_pos found]
  cases h : find? key fields with
  | none => simp [insert, h, replace_place_self]
  | some u => simp [insert, h, replace_replace]

theorem replace_of_find? {key : String} {v : α} {fields : List (String × α)}
    (h : find? key fields = some v) : replace key v fields = fields := by
  induction fields with
  | nil => rfl
  | cons entry rest ih =>
    obtain ⟨k, u⟩ := entry
    by_cases hk : k = key
    · simp only [find?, hk, if_true, Option.some.injEq] at h
      simp [replace, hk, h]
    · simp only [find?, hk, if_false] at h
      simp [replace, hk, ih h]

theorem insert_of_find? {key : String} {v : α} {fields : List (String × α)}
    (h : find? key fields = some v) : insert key v fields = fields := by
  simp [insert, h, replace_of_find? h]

theorem replace_comm {key other : String} (h : key ≠ other) (v w : α)
    (fields : List (String × α)) :
    replace key v (replace other w fields) = replace other w (replace key v fields) := by
  induction fields with
  | nil => rfl
  | cons entry rest ih =>
    obtain ⟨k, u⟩ := entry
    by_cases hk : k = key
    · subst hk
      simp [replace, h]
    · by_cases ho : k = other <;> simp [replace, hk, ho, h.symm, ih]

theorem replace_place_comm {key other : String} (h : key ≠ other) (v w : α)
    (fields : List (String × α)) :
    replace key v (place other w fields) = place other w (replace key v fields) := by
  induction fields with
  | nil => simp [place, replace, h.symm]
  | cons entry rest ih =>
    obtain ⟨k, u⟩ := entry
    by_cases hk : k = key
    · simp only [place, replace, hk, if_true]
      split <;> simp [replace, h.symm]
    · simp only [place, replace, hk, if_false]
      split
      · simp [replace, hk, h.symm]
      · simp [replace, hk, ih]

theorem place_comm {key other : String} (h : key ≠ other) (v w : α)
    (fields : List (String × α)) :
    place key v (place other w fields) = place other w (place key v fields) := by
  have total : ¬ key < other → other < key := fun notBelow =>
    String.not_le.1 fun upper => h (String.le_antisymm upper (String.not_lt.1 notBelow))
  induction fields with
  | nil =>
    by_cases below : key < other
    · simp [place, below, String.lt_asymm below]
    · simp [place, below, total below]
  | cons entry rest ih =>
    obtain ⟨k, u⟩ := entry
    by_cases hk : key < k <;> by_cases ho : other < k
    · by_cases below : key < other
      · simp [place, hk, ho, below, String.lt_asymm below]
      · simp [place, hk, ho, below, total below]
    · have order : ¬ other < key := fun lower => ho (String.lt_trans lower hk)
      simp [place, hk, ho, order]
    · have order : ¬ key < other := fun lower => hk (String.lt_trans lower ho)
      simp [place, hk, ho, order]
    · simp [place, hk, ho, ih]

/-- Insertions of different keys may change places. -/
theorem insert_comm {key other : String} (h : key ≠ other) (v w : α)
    (fields : List (String × α)) :
    insert key v (insert other w fields) = insert other w (insert key v fields) := by
  cases hk : find? key fields <;> cases ho : find? other fields
  · simp [insert, hk, ho, find?_place_of_ne fields h, find?_place_of_ne fields h.symm,
      place_comm h]
  · simp [insert, hk, ho, find?_replace_of_ne fields h, find?_place_of_ne fields h.symm,
      replace_place_comm h.symm]
  · simp [insert, hk, ho, find?_place_of_ne fields h, find?_replace_of_ne fields h.symm,
      replace_place_comm h]
  · simp [insert, hk, ho, find?_replace_of_ne fields h, find?_replace_of_ne fields h.symm,
      replace_comm h]

section Membership

variable {key : String} {v : α} {fields : List (String × α)} {entry : String × α}

theorem mem_of_find? (h : find? key fields = some v) : (key, v) ∈ fields := by
  induction fields with
  | nil => simp at h
  | cons first rest ih =>
    obtain ⟨k, u⟩ := first
    by_cases hk : k = key
    · simp only [find?, hk, if_true, Option.some.injEq] at h
      simp [hk, h]
    · simp only [find?, hk, if_false] at h
      exact List.mem_cons_of_mem _ (ih h)

theorem eq_or_mem_of_mem_replace (h : entry ∈ replace key v fields) :
    entry = (key, v) ∨ entry ∈ fields := by
  induction fields with
  | nil => simp [replace] at h
  | cons first rest ih =>
    obtain ⟨k, u⟩ := first
    simp only [replace] at h
    split at h
    · rename_i same
      exact same ▸ (List.mem_cons.1 h).imp_right (List.mem_cons_of_mem _)
    · rcases List.mem_cons.1 h with rfl | further
      · exact .inr List.mem_cons_self
      · exact (ih further).imp_right (List.mem_cons_of_mem _)

/-- Insertion adds one entry and keeps no others than it has found. -/
theorem eq_or_mem_of_mem_insert (h : entry ∈ insert key v fields) :
    entry = (key, v) ∨ entry ∈ fields := by
  unfold insert at h
  split at h
  · exact eq_or_mem_of_mem_replace h
  · exact mem_place h

end Membership

section Order

variable {key : String} {fields : List (String × α)}

theorem find?_of_above (above : ∀ entry ∈ fields, entry.1 < key) : find? key fields = none := by
  induction fields with
  | nil => rfl
  | cons entry rest ih =>
    obtain ⟨first, others⟩ := List.forall_mem_cons.1 above
    rw [find?, if_neg (String.ne_of_lt first), ih others]

theorem place_of_above (above : ∀ entry ∈ fields, entry.1 < key) (v : α) :
    place key v fields = fields ++ [(key, v)] := by
  induction fields with
  | nil => rfl
  | cons entry rest ih =>
    obtain ⟨first, others⟩ := List.forall_mem_cons.1 above
    rw [place, if_neg (String.lt_asymm first), ih others, List.cons_append]

/-- A key above all others is inserted at the end. -/
theorem insert_of_above (above : ∀ entry ∈ fields, entry.1 < key) (v : α) :
    insert key v fields = fields ++ [(key, v)] := by
  rw [insert, find?_of_above above, Option.isSome_none, if_neg Bool.false_ne_true,
    place_of_above above]

/-- Entries in rising order are what inserting them one after the other builds. -/
theorem ofList_of_sorted (sorted : Sorted fields) : ofList fields = fields := by
  have grow (before after : List (String × α)) (h : Sorted (before ++ after)) :
      after.foldl (fun fields entry => insert entry.1 entry.2 fields) before = before ++ after := by
    induction after generalizing before with
    | nil => exact (List.append_nil before).symm
    | cons entry after ih =>
      have above : ∀ other ∈ before, other.1 < entry.1 := fun other mem =>
        (List.pairwise_append.1 h).2.2 other mem entry List.mem_cons_self
      rw [List.append_cons] at h
      rw [List.foldl_cons, insert_of_above above, ih _ h, ← List.append_cons]
  exact grow [] fields sorted

end Order

section Several

variable {key : String} {v : α} {entries fields : List (String × α)} {entry : String × α}

/-- The fields with further entries inserted one after the other. -/
def insertAll (entries fields : List (String × α)) : List (String × α) :=
  entries.foldl (fun fields entry => insert entry.1 entry.2 fields) fields

theorem ofList_eq_insertAll (entries : List (String × α)) : ofList entries = insertAll entries [] :=
  rfl

theorem insertAll_append (first second fields : List (String × α)) :
    insertAll (first ++ second) fields = insertAll second (insertAll first fields) :=
  List.foldl_append

theorem sorted_insertAll (h : Sorted fields) (entries : List (String × α)) :
    Sorted (insertAll entries fields) := by
  induction entries generalizing fields with
  | nil => exact h
  | cons entry rest ih => exact ih (sorted_insert h)

theorem mem_or_mem_of_mem_insertAll (h : entry ∈ insertAll entries fields) :
    entry ∈ entries ∨ entry ∈ fields := by
  induction entries generalizing fields with
  | nil => exact .inr h
  | cons first rest ih =>
    rcases ih h with later | earlier
    · exact .inl (List.mem_cons_of_mem first later)
    · rcases eq_or_mem_of_mem_insert earlier with rfl | before
      · exact .inl List.mem_cons_self
      · exact .inr before

theorem find?_append (key : String) (xs ys : List (String × α)) :
    find? key (xs ++ ys) = (find? key xs).or (find? key ys) := by
  induction xs with
  | nil => rfl
  | cons entry rest ih =>
    obtain ⟨k, u⟩ := entry
    by_cases hk : k = key <;> simp [find?, hk, ih]

theorem find?_eq_none_iff : find? key fields = none ↔ ∀ entry ∈ fields, entry.1 ≠ key := by
  induction fields with
  | nil => simp
  | cons entry rest ih =>
    obtain ⟨k, u⟩ := entry
    by_cases hk : k = key <;> simp [find?, hk, ih]

/-- Of several entries for a key the last one counts. -/
theorem find?_insertAll (key : String) (entries fields : List (String × α)) :
    find? key (insertAll entries fields) = (find? key entries.reverse).or (find? key fields) := by
  induction entries generalizing fields with
  | nil => rfl
  | cons entry rest ih =>
    obtain ⟨k, u⟩ := entry
    have later : find? key (insertAll ((k, u) :: rest) fields) =
        (find? key rest.reverse).or (find? key (insert k u fields)) := ih (insert k u fields)
    rw [later, List.reverse_cons, find?_append, Option.or_assoc]
    by_cases hk : k = key
    · subst hk
      simp [find?]
    · simp [find?, hk, find?_insert_of_ne fields (Ne.symm hk)]

/-- Below a least entry stands nothing else. -/
theorem lt_of_find?_cons {k : String} {u : α} (sorted : Sorted ((k, u) :: fields)) (other : key ≠ k)
    (h : find? key ((k, u) :: fields) = some v) : k < key := by
  rw [find?, if_neg other.symm] at h
  exact (List.pairwise_cons.1 sorted).1 _ (mem_of_find? h)

theorem find?_of_sorted_cons {k : String} {u : α} (sorted : Sorted ((k, u) :: fields)) :
    find? k fields = none := by
  refine find?_eq_none_iff.2 fun entry mem => ?_
  exact (String.ne_of_lt ((List.pairwise_cons.1 sorted).1 entry mem)).symm

/-- Entries in rising order are determined by what is found among them. -/
theorem ext_of_sorted {xs ys : List (String × α)} (hx : Sorted xs) (hy : Sorted ys)
    (same : ∀ key, find? key xs = find? key ys) : xs = ys := by
  induction xs generalizing ys with
  | nil =>
    cases ys with
    | nil => rfl
    | cons entry rest => simpa [find?] using same entry.1
  | cons entry xs ih =>
    obtain ⟨k, u⟩ := entry
    cases ys with
    | nil => simpa [find?] using same k
    | cons other ys =>
      obtain ⟨l, w⟩ := other
      have foundX : find? l ((k, u) :: xs) = some w := by simpa [find?] using same l
      have foundY : find? k ((l, w) :: ys) = some u := by simpa [find?] using (same k).symm
      obtain rfl : k = l := by
        refine Decidable.byContradiction fun differ => ?_
        exact String.lt_asymm (lt_of_find?_cons hx (Ne.symm differ) foundX)
          (lt_of_find?_cons hy differ foundY)
      obtain rfl : u = w := by simpa [find?] using foundX
      have tails : xs = ys := by
        refine ih (List.pairwise_cons.1 hx).2 (List.pairwise_cons.1 hy).2 fun key => ?_
        by_cases hk : key = k
        · rw [hk, find?_of_sorted_cons hx, find?_of_sorted_cons hy]
        · simpa [find?, Ne.symm hk] using same key
      rw [tails]

/-- The fields of one list over those of another: what the upper one does not have shows through. -/
structure Overridden (below above all : List (String × α)) : Prop where
  sorted : Sorted all
  values : ∀ key, find? key all = (find? key above).or (find? key below)

theorem overridden_insertAll {below : List (String × α)} (sorted : Sorted below)
    (entries : List (String × α)) :
    Overridden below (ofList entries) (insertAll entries below) := by
  refine ⟨sorted_insertAll sorted entries, fun key => ?_⟩
  rw [ofList_eq_insertAll, find?_insertAll, find?_insertAll, find?_nil, Option.or_none]

theorem Overridden.unique {below above all others : List (String × α)}
    (h : Overridden below above all) (h' : Overridden below above others) : all = others :=
  ext_of_sorted h.sorted h'.sorted fun key => (h.values key).trans (h'.values key).symm

end Several

end ResourceLoom.Fields
