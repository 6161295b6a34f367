import ResourceLoom.Proofs.DocumentChildren
import ResourceLoom.Proofs.Outcomes

/-! # Reading and writing along a path

`reach` follows a path child by child, and `put` writes at its end, shaping every value on the way.
Both are total. Here `get` and `set` are shown to be these two with errors: a read succeeds exactly
where `reach` finds a value, and a write succeeds exactly at a writable path, where it puts the
value and nothing else. What refuses a write lies in the path and in the root, so it is found before
anything has changed. The lens laws follow from those of a single child.
-/
namespace ResourceLoom

/-- All positions in the path are within the bound of a write. -/
def Path.Bounded (path : Path) : Prop :=
  ∀ position, .index position ∈ path → position.toNat ≤ Document.maxIndex

theorem Path.Bounded.tail {s : Segment} {rest : Path} (h : Path.Bounded (s :: rest)) :
    Path.Bounded rest := fun i hi => h i (List.mem_cons_of_mem s hi)

theorem Path.Bounded.head {i : UInt64} {rest : Path} (h : Path.Bounded (.index i :: rest)) :
    i.toNat ≤ Document.maxIndex := h i List.mem_cons_self

namespace Document

/-- The value at the end of a path, if the path leads to one. -/
def reach : Document → Path → Option Document
  | x, [] => some x
  | x, s :: rest => (x.child? s).bind (reach · rest)

/-- The document with a value at the end of a path. -/
def put : Document → Path → Document → Document
  | _, [], value => value
  | x, s :: rest, value => x.putChild s (put (x.child s) rest value)

/-- The root is a container of the kind that the path begins with; an empty path asks for none. -/
def AcceptsPath (x : Document) : Path → Prop
  | [] => True
  | s :: _ => x.Accepts s

/-- A write at the path succeeds. -/
structure Writable (root : Document) (path : Path) : Prop where
  nonempty : path ≠ []
  bounded : path.Bounded
  root : root.AcceptsPath path

/-- What a write finds wrong, in the order in which it looks: the path is empty, a position is beyond
the bound, or the root is no container of the kind that the path begins with. -/
inductive Refuses (root : Document) : Path → PathError → Prop where
  | emptyPath : Refuses root [] .emptyPath
  | arrayTooLarge {before after : Path} {position : UInt64} (bounded : before.Bounded)
      (beyond : maxIndex < position.toNat) :
      Refuses root (before ++ .index position :: after) (.arrayTooLarge before position)
  | notAnObject {name : String} {rest : Path} (bounded : Path.Bounded (.field name :: rest))
      (other : ¬ root.Accepts (.field name)) :
      Refuses root (.field name :: rest) (.notAnObject [])
  | notAnArray {position : UInt64} {rest : Path} (bounded : Path.Bounded (.index position :: rest))
      (other : ¬ root.Accepts (.index position)) :
      Refuses root (.index position :: rest) (.notAnArray [])

section Reach

variable {x : Document} {s : Segment} {path : Path}

theorem reach_null (h : path ≠ []) : null.reach path = none := by
  cases path with
  | nil => exact absurd rfl h
  | cons s rest => simp [reach]

/-- Below an absent child a longer path finds as much as below null. -/
theorem reach_cons (h : path ≠ []) :
    x.reach (s :: path) = (x.child s).reach path := by
  cases hc : x.child? s with
  | none => simp [reach, child, hc, reach_null h]
  | some c => simp [reach, child, hc]

theorem reach_append (x : Document) (p q : Path) :
    x.reach (p ++ q) = (x.reach p).bind (reach · q) := by
  induction p generalizing x with
  | nil => simp [reach]
  | cons s rest ih => cases hc : x.child? s <;> simp [reach, hc, ih]

theorem acceptsPath_of_reach {w : Document} (h : x.reach path = some w) : x.AcceptsPath path := by
  cases path with
  | nil => trivial
  | cons s rest =>
    obtain ⟨c, hc, -⟩ := Option.bind_eq_some_iff.1 h
    exact accepts_of_child? hc

theorem getFrom_eq_ok_iff (seen : Path) {w : Document} :
    getFrom seen path x = .ok w ↔ x.reach path = some w := by
  induction path generalizing seen x with
  | nil => simp [getFrom, reach]
  | cons s rest ih =>
    cases s with
    | field name =>
      cases x with
      | object entries =>
        cases hc : Fields.find? name entries <;> simp [getFrom, reach, child?, hc, ih]
      | _ => simp [getFrom, reach, child?, fields]
    | index i =>
      cases x with
      | array elements =>
        cases hc : elements[i.toNat]? <;> simp [getFrom, reach, child?, hc, ih]
      | _ => simp [getFrom, reach, child?, items]

/-- Reading succeeds where the path leads to a value, and gives that value. -/
theorem get_eq_ok_iff {w : Document} : x.get path = .ok w ↔ x.reach path = some w :=
  getFrom_eq_ok_iff []

end Reach

section Put

variable {x : Document} {path : Path}

theorem reach_put (x : Document) (path : Path) (v : Document) :
    (x.put path v).reach path = some v := by
  induction path generalizing x with
  | nil => rfl
  | cons s rest ih => simp [put, reach, ih]

theorem put_put (x : Document) (path : Path) (v w : Document) :
    (x.put path w).put path v = x.put path v := by
  induction path generalizing x with
  | nil => rfl
  | cons s rest ih => simp [put, ih, putChild_putChild_self]

theorem put_of_reach {w : Document} (h : x.reach path = some w) : x.put path w = x := by
  induction path generalizing x with
  | nil => exact (Option.some.inj h).symm
  | cons s rest ih =>
    obtain ⟨c, hc, hw⟩ := Option.bind_eq_some_iff.1 h
    simp [put, child_of_child? hc, ih hw, putChild_of_child? hc]

theorem acceptsPath_put (x : Document) (path : Path) (v : Document) :
    (x.put path v).AcceptsPath path := by
  cases path with
  | nil => trivial
  | cons s rest => exact accepts_putChild x s _

theorem asArray?_getD (x : Document) : x.asArray?.getD [] = x.items := by
  cases x <;> rfl

/-- Preparing a value never fails within the bound, and it does not change what is put below. -/
theorem prepare_eq_done (x : Document) (seen : Path) (bounded : path.Bounded) :
    ∃ y, x.prepare seen path = .done y ∧ y.AcceptsPath path ∧ ∀ v, y.put path v = x.put path v := by
  cases path with
  | nil => exact ⟨x, rfl, trivial, fun v => rfl⟩
  | cons s rest =>
    cases s with
    | field name => cases x <;> exact ⟨_, rfl, trivial, fun v => rfl⟩
    | index i =>
      have grown := grown?_of_le x.items bounded.head
      refine ⟨array (padded x.items i.toNat), ?_, trivial, fun v => ?_⟩
      · simp only [prepare, asArray?_getD, grown]
      · simp only [put, child_padded, putChild_padded]

/-- The children on the way are prepared before they are entered, so only the root can refuse. -/
theorem setFrom_eq_done (v : Document) (seen : Path) (bounded : path.Bounded)
    (h : x.AcceptsPath path) : setFrom v seen path x = .done (x.put path v) := by
  -- What is assumed of the root holds again at each child, since preparing has made it true there.
  induction path generalizing seen x with
  | nil => rfl
  | cons s rest ih =>
    cases s with
    | field name =>
      cases x with
      | object entries =>
        obtain ⟨y, prepared, accepts, same⟩ :=
          prepare_eq_done ((object entries).child (.field name)) (seen ++ [.field name])
            bounded.tail
        have written := ih (seen ++ [.field name]) bounded.tail accepts
        rw [same] at written
        simp only [child, child?, fields_object] at prepared written
        simp only [setFrom, prepared, Outcome.andThen_done, written]
        rfl
      | _ => exact h.elim
    | index i =>
      cases x with
      | array elements =>
        obtain ⟨y, prepared, accepts, same⟩ :=
          prepare_eq_done ((array elements).child (.index i)) (seen ++ [.index i]) bounded.tail
        have written := ih (seen ++ [.index i]) bounded.tail accepts
        rw [same] at written
        simp only [child, child?, items_array] at prepared written
        simp only [setFrom, grown?_of_le elements bounded.head, getElem?_padded_self, prepared,
          Outcome.andThen_done, written]
        rfl
      | _ => exact h.elim

theorem setFrom_field_eq_fail {name : String} (v : Document) (seen rest : Path)
    (h : ¬ x.Accepts (.field name)) :
    setFrom v seen (.field name :: rest) x = .fail (.notAnObject seen) x := by
  cases x with
  | object entries => exact absurd trivial h
  | _ => rfl

theorem setFrom_index_eq_fail {i : UInt64} (v : Document) (seen rest : Path)
    (h : ¬ x.Accepts (.index i)) :
    setFrom v seen (.index i :: rest) x = .fail (.notAnArray seen) x := by
  cases x with
  | array elements => exact absurd trivial h
  | _ => rfl

theorem firstTooLarge?_eq_none_iff (seen : Path) :
    firstTooLarge? seen path = none ↔ path.Bounded := by
  induction path generalizing seen with
  | nil => simp [firstTooLarge?, Path.Bounded]
  | cons s rest ih =>
    cases s with
    | field name => simp [firstTooLarge?, ih, Path.Bounded]
    | index i =>
      by_cases h : maxIndex < i.toNat
      · have unbounded : ¬ Path.Bounded (.index i :: rest) := fun bounded =>
          Nat.not_le.2 h (bounded i List.mem_cons_self)
        simp [firstTooLarge?, h, unbounded]
      · simp [firstTooLarge?, h, ih, Path.Bounded, Nat.le_of_not_lt h]

theorem firstTooLarge?_append {before : Path} (bounded : before.Bounded) (seen rest : Path) :
    firstTooLarge? seen (before ++ rest) = firstTooLarge? (seen ++ before) rest := by
  induction before generalizing seen with
  | nil => simp
  | cons s before ih =>
    have onwards := ih bounded.tail (seen ++ [s])
    rw [List.append_assoc, List.singleton_append] at onwards
    cases s with
    | field name => exact onwards
    | index i =>
      have inside : ¬ maxIndex < i.toNat := Nat.not_lt.2 bounded.head
      rw [List.cons_append, firstTooLarge?, if_neg inside, onwards]

/-- An unbounded path has a first position beyond the bound. -/
theorem exists_first_beyond (unbounded : ¬ path.Bounded) :
    ∃ (before : Path) (position : UInt64) (after : Path),
      path = before ++ .index position :: after ∧ before.Bounded ∧ maxIndex < position.toNat := by
  induction path with
  | nil => exact absurd nofun unbounded
  | cons s rest ih =>
    by_cases beyond : ∃ i, s = .index i ∧ maxIndex < i.toNat
    · obtain ⟨i, rfl, beyond⟩ := beyond
      exact ⟨[], i, rest, rfl, nofun, beyond⟩
    · have inside : ∀ i, .index i = s → i.toNat ≤ maxIndex := fun i hi =>
        Nat.not_lt.1 fun lt => beyond ⟨i, hi.symm, lt⟩
      have restUnbounded : ¬ Path.Bounded rest := fun bounded => unbounded fun i mem =>
        (List.mem_cons.1 mem).elim (inside i) (bounded i)
      obtain ⟨before, position, after, rfl, bounded, far⟩ := ih restUnbounded
      refine ⟨s :: before, position, after, rfl, fun i mem => ?_, far⟩
      exact (List.mem_cons.1 mem).elim (inside i) (bounded i)

end Put

section Set

variable {root : Document} {path : Path}

theorem set_of_writable (h : root.Writable path) (v : Document) :
    root.set path v = .done (root.put path v) := by
  simp [set, h.nonempty, (firstTooLarge?_eq_none_iff []).2 h.bounded,
    setFrom_eq_done v [] h.bounded h.root]

theorem set_of_refuses {e : PathError} (h : root.Refuses path e) (v : Document) :
    root.set path v = .fail e root := by
  cases h with
  | emptyPath => rfl
  | arrayTooLarge bounded beyond =>
    simp [set, firstTooLarge?_append bounded, firstTooLarge?, beyond]
  | notAnObject bounded other =>
    simp [set, (firstTooLarge?_eq_none_iff []).2 bounded, setFrom_field_eq_fail v [] _ other]
  | notAnArray bounded other =>
    simp [set, (firstTooLarge?_eq_none_iff []).2 bounded, setFrom_index_eq_fail v [] _ other]

/-- Nothing is created on the way to a position beyond the bound. -/
example (v : Document) : (object []).set [.field "ports", .index 1000001] v =
    .fail (.arrayTooLarge [.field "ports"] 1000001) (object []) := rfl

theorem writable_or_refuses (root : Document) (path : Path) :
    root.Writable path ∨ ∃ e, root.Refuses path e := by
  by_cases bounded : path.Bounded
  · cases path with
    | nil => exact .inr ⟨_, .emptyPath⟩
    | cons s rest =>
      by_cases accepts : root.Accepts s
      · exact .inl ⟨List.cons_ne_nil s rest, bounded, accepts⟩
      · cases s with
        | field name => exact .inr ⟨_, .notAnObject bounded accepts⟩
        | index i => exact .inr ⟨_, .notAnArray bounded accepts⟩
  · obtain ⟨before, position, after, rfl, small, beyond⟩ := exists_first_beyond bounded
    exact .inr ⟨_, .arrayTooLarge small beyond⟩

/-- A write that is refused leaves the document as it was. -/
theorem set_of_not_writable (h : ¬ root.Writable path) (v : Document) :
    ∃ e, root.set path v = .fail e root := by
  obtain ⟨e, refused⟩ := (writable_or_refuses root path).resolve_left h
  exact ⟨e, set_of_refuses refused v⟩

theorem set_ok_iff {v : Document} : (root.set path v).result = .ok () ↔ root.Writable path := by
  constructor
  · intro ok
    refine Classical.byContradiction fun refused => ?_
    obtain ⟨e, he⟩ := set_of_not_writable refused v
    simp [he, Outcome.fail] at ok
  · intro h
    simp [set_of_writable h, Outcome.done]

theorem set_eq_of_ok {v : Document} (ok : (root.set path v).result = .ok ()) :
    root.set path v = .done (root.put path v) :=
  set_of_writable (set_ok_iff.1 ok) v

theorem set_state_of_error {v : Document} {e : PathError}
    (failed : (root.set path v).result = .error e) : (root.set path v).state = root := by
  by_cases h : root.Writable path
  · simp [set_of_writable h, Outcome.done] at failed
  · obtain ⟨e, he⟩ := set_of_not_writable h v
    rw [he]
    rfl

theorem set_error_iff {v : Document} {e : PathError} :
    (root.set path v).result = .error e ↔ root.Refuses path e := by
  constructor
  · intro failed
    rcases writable_or_refuses root path with writable | ⟨found, refused⟩
    · rw [set_of_writable writable] at failed
      cases failed
    · rw [set_of_refuses refused] at failed
      cases failed
      exact refused
  · intro refused
    rw [set_of_refuses refused, Outcome.result_fail]

/-- A write succeeds exactly at a writable path. At any other it fails with what it finds wrong
first, and the document stays as it was. -/
theorem set_outcome_iff (root : Document) (path : Path) (v : Document) :
    ((root.set path v).result = .ok () ↔ root.Writable path) ∧
    (∀ e, (root.set path v).result = .error e ↔ root.Refuses path e) ∧
    ((root.set path v).result ≠ .ok () → (root.set path v).state = root) := by
  refine ⟨set_ok_iff, fun e => set_error_iff, fun refused => ?_⟩
  have notWritable : ¬ root.Writable path := fun writable => refused (set_ok_iff.2 writable)
  obtain ⟨e, failed⟩ := set_of_not_writable notWritable v
  rw [failed, Outcome.state_fail]

/-- What has been written is read back, the second of two writes counts, and writing what is there
changes nothing. -/
theorem set_lens_laws (root : Document) (nonempty : path ≠ []) (v v₁ v₂ w : Document) :
    ((root.set path v).result = .ok () → (root.set path v).state.get path = .ok v) ∧
    ((root.set path v₁).result = .ok () →
      (root.set path v₁).state.set path v₂ = root.set path v₂) ∧
    (root.get path = .ok w → path.Bounded → root.set path w = .done root) := by
  refine ⟨fun ok => ?_, fun ok => ?_, fun read bounded => ?_⟩
  · rw [set_eq_of_ok ok]
    exact get_eq_ok_iff.2 (reach_put root path v)
  · have h := set_ok_iff.1 ok
    have again : (root.put path v₁).Writable path :=
      ⟨nonempty, h.bounded, acceptsPath_put root path v₁⟩
    rw [set_of_writable h, set_of_writable h]
    exact (set_of_writable again v₂).trans (congrArg Outcome.done (put_put root path v₂ v₁))
  · have reached := get_eq_ok_iff.1 read
    have h : root.Writable path := ⟨nonempty, bounded, acceptsPath_of_reach reached⟩
    rw [set_of_writable h, put_of_reach reached]

/-- An object with one port, and the path of a port in it. -/
def onePort : Document := object [("ports", array [int 80])]

def portPath (position : UInt64) : Path := [.field "ports", .index position]

/-- A write behind the end of the array obeys the laws as one of the value that is there does. -/
theorem set_lens_laws_onePort :
    portPath 2 ≠ [] ∧ (onePort.set (portPath 2) (int 443)).result = .ok () ∧
    (onePort.set (portPath 2) (int 443)).state.get (portPath 2) = .ok (int 443) ∧
    (onePort.set (portPath 2) (int 443)).state.set (portPath 2) null =
      onePort.set (portPath 2) null ∧
    onePort.get (portPath 0) = .ok (int 80) ∧
    onePort.set (portPath 0) (int 80) = .done onePort := by
  have nonempty (i : UInt64) : portPath i ≠ [] := List.cons_ne_nil _ _
  have bounded : (portPath 0).Bounded := (firstTooLarge?_eq_none_iff []).1 rfl
  obtain ⟨readBack, overwrite, -⟩ :=
    set_lens_laws onePort (nonempty 2) (int 443) (int 443) null null
  obtain ⟨-, -, rewrite⟩ := set_lens_laws onePort (nonempty 0) null null null (int 80)
  exact ⟨nonempty 2, rfl, readBack rfl, overwrite rfl, rfl, rewrite rfl bounded⟩

end Set

end Document
end ResourceLoom
