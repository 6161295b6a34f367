/-! # Longest runs

A text begins with exactly one longest run of characters of a kind: the run goes on as long as the
characters are of the kind, and it ends with the text or at the first other one.
-/
namespace ResourceLoom

/-- What a text begins with is a run of characters of a kind, and what follows does not go on
with it. -/
structure LongestRun (kind : Char → Bool) (run rest : List Char) : Prop where
  all : ∀ c ∈ run, kind c = true
  stops : ∀ c ∈ rest.head?, kind c = false

namespace LongestRun

variable {kind : Char → Bool} {run rest : List Char}

theorem tail {c : Char} (h : LongestRun kind (c :: run) rest) : LongestRun kind run rest :=
  ⟨(List.forall_mem_cons.1 h.all).2, h.stops⟩

theorem takeWhile_append (h : LongestRun kind run rest) : (run ++ rest).takeWhile kind = run := by
  induction run with
  | nil =>
    cases rest with
    | nil => rfl
    | cons c rest =>
      have other : kind c = false := h.stops c rfl
      simp [other]
  | cons c run ih =>
    have same : kind c = true := h.all c List.mem_cons_self
    rw [List.cons_append, List.takeWhile_cons_of_pos same, ih h.tail]

theorem dropWhile_append (h : LongestRun kind run rest) : (run ++ rest).dropWhile kind = rest := by
  have whole : (run ++ rest).takeWhile kind ++ (run ++ rest).dropWhile kind = run ++ rest :=
    List.takeWhile_append_dropWhile
  rw [h.takeWhile_append] at whole
  exact List.append_cancel_left whole

/-- Every text splits into a longest run and what follows it. -/
theorem of_text (kind : Char → Bool) (text : List Char) :
    LongestRun kind (text.takeWhile kind) (text.dropWhile kind) := by
  constructor
  · intro c mem
    exact List.all_eq_true.1 List.all_takeWhile c mem
  · intro c first
    have stopped := List.head?_dropWhile_not kind text
    rw [Option.mem_def.1 first] at stopped
    simpa using stopped

theorem exists_split (kind : Char → Bool) (text : List Char) :
    ∃ run rest, text = run ++ rest ∧ LongestRun kind run rest :=
  ⟨_, _, List.takeWhile_append_dropWhile.symm, of_text kind text⟩

/-- A text splits in one way only. -/
theorem unique {run' rest' : List Char} (h : LongestRun kind run rest)
    (h' : LongestRun kind run' rest') (same : run ++ rest = run' ++ rest') :
    run = run' ∧ rest = rest' := by
  constructor
  · rw [← h.takeWhile_append, same, h'.takeWhile_append]
  · rw [← h.dropWhile_append, same, h'.dropWhile_append]

end LongestRun
end ResourceLoom
