import ResourceLoom.Proofs.WriteSequences

/-! # The lengths of arrays under writes

A write may address a position up to the bound, and it pads an array up to there. The arrays on its
way are as deep in the document as the path goes, and a path may lead through several. Here no array
of a document, at any depth, is made longer than the bound allows, by one write or by a sequence of
them, whether they succeed or are refused.
-/
namespace ResourceLoom.Document

variable {x y c v : Document} {s : Segment} {rest path : Path} {writes : List Write}

/-- What stands in a padded array is null or stood there before. -/
theorem mem_padded {items : List Document} {i : Nat} (h : y ∈ padded items i) :
    y ∈ items ∨ y = null :=
  (List.mem_append.1 h).imp_right List.eq_of_mem_replicate

theorem length_padded (items : List Document) (i : Nat) :
    (padded items i).length = max items.length (i + 1) := by
  simp only [padded, List.length_append, List.length_replicate]
  omega

/-- The first document stands somewhere in the second, which may also be that document itself. -/
inductive Occurs (x : Document) : Document → Prop where
  | here : Occurs x x
  | item {y : Document} {items : List Document} (mem : y ∈ items) (inside : Occurs x y) :
      Occurs x (array items)
  | field {y : Document} {name : String} {fields : List (String × Document)}
      (mem : (name, y) ∈ fields) (inside : Occurs x y) : Occurs x (object fields)

/-- No array in the document goes beyond the positions that a write may address. -/
def ArraysBounded (x : Document) : Prop :=
  ∀ items, Occurs (array items) x → items.length ≤ maxIndex + 1

/-- The arrays in a document are the document, if it is one, and those in what it holds. -/
theorem arraysBounded_iff : x.ArraysBounded ↔
    x.items.length ≤ maxIndex + 1 ∧ (∀ y ∈ x.items, y.ArraysBounded) ∧
      ∀ entry ∈ x.fields, entry.2.ArraysBounded := by
  constructor
  · intro bounded
    refine ⟨?_, fun y mem items inside => ?_, fun entry mem items inside => ?_⟩
    · cases x with
      | array items => exact bounded items .here
      | _ => exact Nat.zero_le _
    · cases x with
      | array _ => exact bounded items (.item mem inside)
      | _ => cases mem
    · cases x with
      | object _ => exact bounded items (.field mem inside)
      | _ => cases mem
  · rintro ⟨short, below, beside⟩ items occurs
    cases occurs with
    | here => exact short
    | item mem inside => exact below _ mem items inside
    | field mem inside => exact beside _ mem items inside

theorem arraysBounded_of_empty (elements : x.items = []) (entries : x.fields = []) :
    x.ArraysBounded := by
  rw [arraysBounded_iff, elements, entries]
  exact ⟨Nat.zero_le _, nofun, nofun⟩

namespace ArraysBounded

theorem child (h : x.ArraysBounded) (s : Segment) : (x.child s).ArraysBounded := by
  obtain ⟨-, elements, entries⟩ := arraysBounded_iff.1 h
  cases found : x.child? s with
  | none =>
    rw [Document.child, found]
    exact arraysBounded_of_empty rfl rfl
  | some c =>
    rw [child_of_child? found]
    cases s with
    | field name => exact entries (name, c) (Fields.mem_of_find? found)
    | index i => exact elements c (List.mem_of_getElem? found)

theorem putChild (h : x.ArraysBounded) (hc : c.ArraysBounded)
    (bounded : Path.Bounded (s :: rest)) : (x.putChild s c).ArraysBounded := by
  obtain ⟨short, elements, entries⟩ := arraysBounded_iff.1 h
  cases s with
  | field name =>
    refine arraysBounded_iff.2 ⟨Nat.zero_le _, nofun, fun entry mem => ?_⟩
    rcases Fields.eq_or_mem_of_mem_insert mem with rfl | kept
    · exact hc
    · exact entries entry kept
  | index i =>
    have within : i.toNat ≤ maxIndex := bounded.head
    refine arraysBounded_iff.2 ⟨?_, fun y mem => ?_, nofun⟩
    · simp only [Document.putChild, items_array, List.length_set, length_padded]
      omega
    · rcases List.mem_or_eq_of_mem_set mem with kept | rfl
      · rcases mem_padded kept with kept | rfl
        · exact elements y kept
        · exact arraysBounded_of_empty rfl rfl
      · exact hc

/-- The bound on the positions of a path is one on the arrays that a value is put through. -/
theorem put (h : x.ArraysBounded) (hv : v.ArraysBounded) (bounded : path.Bounded) :
    (x.put path v).ArraysBounded := by
  induction path generalizing x with
  | nil => exact hv
  | cons s rest ih =>
    have below : ((x.child s).put rest v).ArraysBounded := ih (h.child s) bounded.tail
    exact h.putChild below bounded

/-- One write, be it refused or not. -/
theorem set (h : x.ArraysBounded) (hv : v.ArraysBounded) (path : Path) :
    (x.set path v).state.ArraysBounded := by
  by_cases writable : x.Writable path
  · rw [set_of_writable writable, Outcome.state_done]
    exact h.put hv writable.bounded
  · obtain ⟨e, refused⟩ := set_of_not_writable writable v
    rw [refused, Outcome.state_fail]
    exact h

end ArraysBounded

/-- What the writes leave when each is made on what the one before it has left. -/
def setAll (x : Document) (writes : List Write) : Document :=
  writes.foldl (fun x w => (x.set w.1 w.2).state) x

@[simp] theorem setAll_nil (x : Document) : x.setAll [] = x := rfl

@[simp] theorem setAll_cons (x : Document) (w : Write) (rest : List Write) :
    x.setAll (w :: rest) = (x.set w.1 w.2).state.setAll rest := rfl

/-- After each of a sequence of writes, at whatever paths, the arrays of a document are within the
bound if they were so at first and in the values that are written. -/
theorem arraysBounded_setAll (start : x.ArraysBounded)
    (given : ∀ w ∈ writes, w.2.ArraysBounded) {made : List Write} (before : made <+: writes) :
    (x.setAll made).ArraysBounded := by
  have values : ∀ w ∈ made, w.2.ArraysBounded := fun w mem => given w (before.subset mem)
  clear before
  induction made generalizing x with
  | nil => exact start
  | cons w made ih =>
    obtain ⟨first, others⟩ := List.forall_mem_cons.1 values
    exact ih (start.set first w.1) others

/-- Writes that add a port, address one beyond the bound and put an array below another one. -/
def portWrites : List Write :=
  [(portPath 2, int 443), (portPath 1000001, int 8080),
    ([.field "rules", .index 1, .field "hosts"], array [string "a", string "b"])]

theorem arraysBounded_setAll_portWrites :
    onePort.ArraysBounded ∧ (∀ w ∈ portWrites, w.2.ArraysBounded) ∧
      (onePort.setAll portWrites).ArraysBounded := by
  have flat {items : List Document} (short : items.length ≤ maxIndex + 1)
      (leaves : ∀ y ∈ items, y.items = [] ∧ y.fields = []) : (array items).ArraysBounded :=
    arraysBounded_iff.2
      ⟨short, fun y mem => arraysBounded_of_empty (leaves y mem).1 (leaves y mem).2, nofun⟩
  have start : onePort.ArraysBounded := by
    refine arraysBounded_iff.2 ⟨Nat.zero_le _, nofun, List.forall_mem_singleton.2 ?_⟩
    exact flat (by decide) (by decide)
  have given : ∀ w ∈ portWrites, w.2.ArraysBounded := by
    simp only [portWrites, List.forall_mem_cons]
    exact ⟨arraysBounded_of_empty rfl rfl, arraysBounded_of_empty rfl rfl,
      flat (by decide) (by decide), nofun⟩
  exact ⟨start, given, arraysBounded_setAll start given List.prefix_rfl⟩

end ResourceLoom.Document
