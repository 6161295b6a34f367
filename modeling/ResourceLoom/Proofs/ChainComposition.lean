import ResourceLoom.Proofs.ErrorPlaces

/-! # Chains in two parts

A chain may be run in two parts where the first one leaves a single value: the second part goes on
with it as a chain of its own. Only the positions of its transforms are counted from its own
beginning then, and they are moved by the length of the first part.
-/
namespace ResourceLoom

/-- The place behind some transforms of the same chain. -/
def Place.behind (count : Nat) : Place → Place
  | .transform index => .transform (index + count)
  | place => place

/-- The error of a chain that follows some other transforms. -/
def Error.behind (count : Nat) (e : Error) : Error :=
  { e with places := e.places.map (Place.behind count) }

@[simp] theorem Error.behind_within (count : Nat) (place : Place) (e : Error) :
    (e.within place).behind count = (e.behind count).within (place.behind count) := rfl

namespace Transform

variable {t : Transform} {first second : List Transform} {values reached : List Document}
  {e : Error}

/-- The error of a single transform has no position in a chain. -/
theorem behind_of_resolve (failed : t.resolve values = .error e) (count : Nat) :
    e.behind count = e := by
  cases bare : t.resolveBare values with
  | ok next =>
    rw [resolve_of_ok bare] at failed
    cases failed
  | error inner =>
    rw [resolve_of_error bare] at failed
    cases failed
    obtain ⟨places, cause⟩ := inner
    rcases namesValue_of_resolveBare bare with unplaced | ⟨position, place, -⟩
    · obtain rfl : places = [] := unplaced
      rfl
    · obtain rfl : places = [.value position] := place
      rfl

/-- Where a chain begins is seen in the positions of its errors only. -/
theorem runFrom_add (index count : Nat) (chain : List Transform) (values : List Document) :
    runFrom (index + count) chain values =
      (runFrom index chain values).mapError (Error.behind count) := by
  induction chain generalizing index values with
  | nil => rfl
  | cons t rest ih =>
    cases made : t.resolve values with
    | error e =>
      have moved : (e.within (.transform index)).behind count =
          e.within (.transform (index + count)) := by
        rw [Error.behind_within, behind_of_resolve made count, Place.behind]
      simp only [runFrom, made]
      exact congrArg Except.error moved.symm
    | ok next =>
      have moved := ih (index + 1) next
      rw [Nat.add_right_comm] at moved
      simp only [runFrom, made, moved]

/-- One value stays one, and a combination makes one of any number. -/
theorem Passes.exists_one (passed : Passes first values reached)
    (one : values.length = 1 ∨ ∃ t ∈ first, t.Combines) : ∃ w, reached = [w] := by
  refine List.length_eq_one_iff.1 ?_
  by_cases nonempty : values = []
  · subst nonempty
    obtain ⟨rfl, -⟩ := passed.eq_nil
    simp at one
  · obtain ⟨combined, kept⟩ := passed.length nonempty
    by_cases combines : ∃ t ∈ first, t.Combines
    · exact combined combines
    · have separate : ∀ t ∈ first, ¬ t.Combines := fun t mem together =>
        combines ⟨t, mem, together⟩
      rw [kept separate]
      exact one.resolve_right combines

theorem run_append_of_one {w : Document} (passed : Passes first values [w])
    (second : List Transform) :
    run (first ++ second) values = (run second [w]).mapError (Error.behind first.length) := by
  have onwards : runFrom 0 (first ++ second) values =
      (runFrom 0 second [w]).mapError (Error.behind first.length) := by
    rw [runFrom_append, (runFrom_eq_ok_iff 0).2 passed]
    exact runFrom_add 0 first.length second [w]
  rw [run, run, onwards]
  rcases runFrom 0 second [w] with fault | results
  · rfl
  · rcases results with _ | ⟨v, _ | ⟨u, rest⟩⟩ <;> rfl

/-- A chain whose first part leaves one value fails with that part, or it goes on with its second
part on that value, and then the positions in an error are moved by the length of the first. -/
theorem run_append (one : values.length = 1 ∨ ∃ t ∈ first, t.Combines)
    (second : List Transform) :
    (∀ e, run first values = .error e → run (first ++ second) values = .error e) ∧
      ∀ w, run first values = .ok w →
        run (first ++ second) values = (run second [w]).mapError (Error.behind first.length) := by
  refine ⟨fun e failed => ?_, fun w done => ?_⟩
  · cases made : runFrom 0 first values with
    | error fault =>
      rw [run, made] at failed
      cases failed
      exact run_append_of_error made second
    | ok reached =>
      obtain ⟨w, rfl⟩ := ((runFrom_eq_ok_iff 0).1 made).exists_one one
      rw [run, made] at failed
      cases failed
  · have reached : Passes first values [w] := (runFrom_eq_ok_iff 0).1 (runFrom_of_run_ok done)
    exact run_append_of_one reached second

/-- The combined sizes are looked up in a table that does not have them, by the first transform of
the second part and the fourth of the whole chain. -/
theorem run_append_sizes :
    (sizes.length = 1 ∨ ∃ t ∈ sizeChain, t.Combines) ∧
      ∃ w key, run sizeChain sizes = .ok w ∧
        run [.map .empty] [w] = .error ⟨[.transform 0, .resolver "map"], .keyNotFound key⟩ ∧
        run (sizeChain ++ [.map .empty]) sizes =
          .error ⟨[.transform 3, .resolver "map"], .keyNotFound key⟩ := by
  have one : sizes.length = 1 ∨ ∃ t ∈ sizeChain, t.Combines :=
    .inr ⟨.combine (.string "%d-%d"), by decide, trivial⟩
  obtain ⟨w, done⟩ : ∃ w, run sizeChain sizes = .ok w := ⟨_, rfl⟩
  obtain ⟨key, rfl⟩ : ∃ key, w = .string key := by
    cases done
    exact ⟨_, rfl⟩
  exact ⟨one, _, key, done, rfl, (run_append one [.map .empty]).2 _ done⟩

end Transform
end ResourceLoom
