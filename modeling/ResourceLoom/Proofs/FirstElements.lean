/-! # First elements with a property

Where several elements of a list have a property, the first one counts. It is described by a split
of the list, and it is what a search from the front finds. Where each element is resolved, and some
fail, the first failure is described in the same way.
-/
namespace ResourceLoom

variable {α : Type} {property : α → Prop} {xs : List α} {x : α}

/-- The element is the first of the list that has a property. -/
def FirstWith {α : Type} (property : α → Prop) (xs : List α) (x : α) : Prop :=
  ∃ before after, xs = before ++ x :: after ∧ property x ∧ ∀ y ∈ before, ¬ property y

theorem FirstWith.exists (mem : x ∈ xs) (h : property x) : ∃ first, FirstWith property xs first := by
  induction xs with
  | nil => cases mem
  | cons y ys ih =>
    by_cases head : property y
    · exact ⟨y, [], ys, rfl, head, nofun⟩
    · have later : x ∈ ys := by
        refine (List.mem_cons.1 mem).resolve_left ?_
        rintro rfl
        exact head h
      obtain ⟨first, before, after, rfl, found, others⟩ := ih later
      exact ⟨first, y :: before, after, rfl, found, List.forall_mem_cons.2 ⟨head, others⟩⟩

/-- A search from the front finds the first element. -/
theorem find?_eq_some_iff_firstWith {test : α → Bool} (decides : ∀ y, test y = true ↔ property y) :
    xs.find? test = some x ↔ FirstWith property xs x := by
  have fails (y : α) : test y = false ↔ ¬ property y := by
    rw [← decides, Bool.not_eq_true]
  simp only [List.find?_eq_some_iff_append, FirstWith, decides, Bool.not_eq_true', fails]
  constructor
  · rintro ⟨found, before, after, split, others⟩
    exact ⟨before, after, split, found, others⟩
  · rintro ⟨before, after, split, found, others⟩
    exact ⟨found, before, after, split, others⟩

section Failures

variable {ε β : Type} {resolve : α → Except ε β} {results : List β}

theorem exists_ok_of_mem (h : xs.map resolve = results.map .ok) :
    ∀ x ∈ xs, ∃ w, resolve x = .ok w := by
  intro x mem
  have made : resolve x ∈ results.map Except.ok := h ▸ List.mem_map_of_mem mem
  obtain ⟨w, -, done⟩ := List.mem_map.1 made
  exact ⟨w, done.symm⟩

/-- Either all elements are resolved, or there is a first one that is not. -/
theorem all_ok_or_first_error (resolve : α → Except ε β) (xs : List α) :
    (∃ results : List β, xs.map resolve = results.map .ok) ∨
    ∃ (before : List α) (x : α) (after : List α) (results : List β) (e : ε),
      xs = before ++ x :: after ∧ before.map resolve = results.map .ok ∧
      resolve x = .error e := by
  induction xs with
  | nil => exact .inl ⟨[], rfl⟩
  | cons x rest ih =>
    cases first : resolve x with
    | error e => exact .inr ⟨[], x, rest, [], e, rfl, rfl, first⟩
    | ok w =>
      rcases ih with ⟨results, all⟩ | ⟨before, y, after, results, e, rfl, passed, failed⟩
      · exact .inl ⟨w :: results, by simp [first, all]⟩
      · exact .inr ⟨x :: before, y, after, w :: results, e, rfl, by simp [first, passed], failed⟩

end Failures

end ResourceLoom
