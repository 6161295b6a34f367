/-! # Named values in key order

A list of named values whose first entry for a key counts. `insert` replaces a value where its key
stands and places a new key before the first greater one, so lists built by `insert` have each key
once, in rising order by code point.
-/
namespace ResourceLoom.Fields

variable {α β : Type}

def find? (key : String) : List (String × α) → Option α
  | [] => none
  | (k, v) :: rest => if k = key then some v else find? key rest

/-- The list with the value of an occurring key replaced. -/
def replace (key : String) (value : α) : List (String × α) → List (String × α)
  | [] => []
  | (k, v) :: rest => if k = key then (k, value) :: rest else (k, v) :: replace key value rest

/-- The list with a new entry before the first greater key. -/
def place (key : String) (value : α) : List (String × α) → List (String × α)
  | [] => [(key, value)]
  | (k, v) :: rest =>
    if key < k then (key, value) :: (k, v) :: rest else (k, v) :: place key value rest

def insert (key : String) (value : α) (fields : List (String × α)) : List (String × α) :=
  if (find? key fields).isSome then replace key value fields else place key value fields

/-- The entries inserted one after the other: a later value of a key wins. -/
def ofList (entries : List (String × α)) : List (String × α) :=
  entries.foldl (fun fields entry => insert entry.1 entry.2 fields) []

/-- Each key once, in rising order. -/
def Sorted (fields : List (String × α)) : Prop := fields.Pairwise fun a b => a.1 < b.1

def mapValues (f : α → β) (fields : List (String × α)) : List (String × β) :=
  fields.map fun entry => (entry.1, f entry.2)

@[simp] theorem find?_nil (key : String) : find? key ([] : List (String × α)) = none := rfl

theorem find?_replace_self {key : String} {value : α} {fields : List (String × α)}
    (h : (find? key fields).isSome) : find? key (replace key value fields) = some value := by
  induction fields with
  | nil => simp at h
  | cons entry rest ih =>
    obtain ⟨k, v⟩ := entry
    by_cases hk : k = key <;> simp_all [find?, replace]

theorem find?_place_self {key : String} {value : α} {fields : List (String × α)}
    (h : find? key fields = none) : find? key (place key value fields) = some value := by
  induction fields with
  | nil => simp [place, find?]
  | cons entry rest ih =>
    obtain ⟨k, v⟩ := entry
    by_cases hk : k = key
    · simp [find?, hk] at h
    · simp only [find?, hk, if_false] at h
      simp only [place]
      split <;> simp [find?, hk, ih h]

@[simp] theorem find?_insert_self (key : String) (value : α) (fields : List (String × α)) :
    find? key (insert key value fields) = some value := by
  cases h : find? key fields with
  | none => simp [insert, h, find?_place_self]
  | some v => simp [insert, h, find?_replace_self]

theorem find?_replace_of_ne {key other : String} {value : α} (fields : List (String × α))
    (h : other ≠ key) : find? other (replace key value fields) = find? other fields := by
  induction fields with
  | nil => rfl
  | cons entry rest ih =>
    obtain ⟨k, v⟩ := entry
    by_cases hk : k = key
    · subst hk
      simp [find?, replace, h.symm]
    · by_cases ho : k = other <;> simp_all [find?, replace]

theorem find?_place_of_ne {key other : String} {value : α} (fields : List (String × α))
    (h : other ≠ key) : find? other (place key value fields) = find? other fields := by
  induction fields with
  | nil => simp [find?, place, h.symm]
  | cons entry rest ih =>
    obtain ⟨k, v⟩ := entry
    simp only [place]
    split
    · simp [find?, h.symm]
    · simp [find?, ih]

theorem find?_insert_of_ne {key other : String} {value : α} (fields : List (String × α))
    (h : other ≠ key) : find? other (insert key value fields) = find? other fields := by
  unfold insert
  split
  · exact find?_replace_of_ne fields h
  · exact find?_place_of_ne fields h

theorem mem_replace {key : String} {value : α} {fields : List (String × α)} {entry : String × α}
    (h : entry ∈ replace key value fields) : ∃ v, (entry.1, v) ∈ fields := by
  induction fields with
  | nil => simp [replace] at h
  | cons first rest ih =>
    obtain ⟨k, v⟩ := first
    simp only [replace] at h
    split at h
    · rcases List.mem_cons.1 h with rfl | h
      · exact ⟨v, List.mem_cons_self⟩
      · exact ⟨entry.2, List.mem_cons_of_mem _ h⟩
    · rcases List.mem_cons.1 h with rfl | h
      · exact ⟨v, List.mem_cons_self⟩
      · obtain ⟨w, hw⟩ := ih h
        exact ⟨w, List.mem_cons_of_mem _ hw⟩

theorem mem_place {key : String} {value : α} {fields : List (String × α)} {entry : String × α}
    (h : entry ∈ place key value fields) : entry = (key, value) ∨ entry ∈ fields := by
  induction fields with
  | nil => exact .inl (by simpa [place] using h)
  | cons first rest ih =>
    obtain ⟨k, v⟩ := first
    simp only [place] at h
    split at h
    · exact List.mem_cons.1 h
    · rcases List.mem_cons.1 h with rfl | h
      · exact .inr List.mem_cons_self
      · exact (ih h).imp id (List.mem_cons_of_mem _)

theorem sorted_replace {key : String} {value : α} {fields : List (String × α)}
    (h : Sorted fields) : Sorted (replace key value fields) := by
  induction fields with
  | nil => exact h
  | cons first rest ih =>
    obtain ⟨k, v⟩ := first
    obtain ⟨above, tail⟩ := List.pairwise_cons.1 h
    simp only [replace]
    split
    · exact List.pairwise_cons.2 ⟨above, tail⟩
    · refine List.pairwise_cons.2 ⟨fun entry he => ?_, ih tail⟩
      obtain ⟨w, hw⟩ := mem_replace he
      exact (above (entry.1, w) hw : k < entry.1)

theorem sorted_place {key : String} {value : α} {fields : List (String × α)}
    (h : Sorted fields) (absent : find? key fields = none) : Sorted (place key value fields) := by
  induction fields with
  | nil => simp [place, Sorted]
  | cons first rest ih =>
    obtain ⟨k, v⟩ := first
    obtain ⟨above, tail⟩ := List.pairwise_cons.1 h
    simp only [find?] at absent
    split at absent
    · simp at absent
    rename_i differs
    simp only [place]
    split
    · rename_i below
      refine List.pairwise_cons.2 ⟨fun entry he => ?_, h⟩
      rcases List.mem_cons.1 he with rfl | he
      · exact below
      · exact String.lt_trans below (above _ he)
    · rename_i below
      refine List.pairwise_cons.2 ⟨fun entry he => ?_, ih tail absent⟩
      rcases mem_place he with rfl | he
      · have upper : k ≤ key := String.not_lt.1 below
        exact String.not_le.1 fun lower => differs (String.le_antisymm upper lower)
      · exact above _ he

theorem sorted_insert {key : String} {value : α} {fields : List (String × α)}
    (h : Sorted fields) : Sorted (insert key value fields) := by
  cases found : find? key fields with
  | none => simpa [insert, found] using sorted_place h found
  | some v => simpa [insert, found] using sorted_replace h

theorem sorted_ofList (entries : List (String × α)) : Sorted (ofList entries) := by
  have grow (fields : List (String × α)) (h : Sorted fields) :
      Sorted (entries.foldl (fun fields entry => insert entry.1 entry.2 fields) fields) := by
    induction entries generalizing fields with
    | nil => exact h
    | cons entry rest ih => exact ih _ (sorted_insert h)
  exact grow [] List.Pairwise.nil

end ResourceLoom.Fields
