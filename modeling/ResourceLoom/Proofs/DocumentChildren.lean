import ResourceLoom.Document.Write
import ResourceLoom.Proofs.FieldInsertion

/-! # Children of documents

One segment of a path leads from a container to a child. Reading and putting a child are defined
for every value: a value of another kind has no children, and it gives way to an empty container
where a child is put. What a put child does to the children at other segments is said exactly,
with the elements that padding adds to an array.
-/
namespace ResourceLoom

/-- Both are names of fields or both are positions. -/
def Segment.Alike : Segment → Segment → Prop
  | field _, field _ | index _, index _ => True
  | _, _ => False

theorem Segment.Alike.symm {s t : Segment} (h : s.Alike t) : t.Alike s := by
  cases s <;> cases t <;> exact h

theorem Segment.alike_field (a b : String) : (field a).Alike (field b) := trivial

theorem Segment.field_ne {a b : String} (h : a ≠ b) : field a ≠ field b :=
  fun e => h (field.inj e)

namespace Document

/-- The fields of an object; other values have none. -/
def fields : Document → List (String × Document)
  | object fields => fields
  | _ => []

/-- The elements of an array; other values have none. -/
def items : Document → List Document
  | array items => items
  | _ => []

@[simp] theorem fields_object (entries : List (String × Document)) :
    (object entries).fields = entries := rfl

@[simp] theorem items_array (elements : List Document) : (array elements).items = elements := rfl

/-- The value is a container of the kind that the segment steps into. -/
def Accepts : Document → Segment → Prop
  | object _, .field _ | array _, .index _ => True
  | _, _ => False

def child? (x : Document) : Segment → Option Document
  | .field name => Fields.find? name x.fields
  | .index position => x.items[position.toNat]?

/-- The child that a write finds at a segment: null where there is none. -/
def child (x : Document) (s : Segment) : Document := (x.child? s).getD null

def putChild (x : Document) (s : Segment) (child : Document) : Document :=
  match s with
  | .field name => object (Fields.insert name child x.fields)
  | .index position => array ((padded x.items position.toNat).set position.toNat child)

/-- What stands at the second segment when an empty array is padded for the first. -/
def padding : Segment → Segment → Option Document
  | .index written, .index position => if position < written then some null else none
  | _, _ => none

variable {x : Document} {s t : Segment}

theorem padding_eq_some {w : Document} (h : padding s t = some w) :
    w = null ∧ ∃ i j, s = .index i ∧ t = .index j ∧ j < i := by
  cases s with
  | field name => simp [padding] at h
  | index i =>
    cases t with
    | field name => simp [padding] at h
    | index j =>
      by_cases lower : j < i
      · simp only [padding, if_pos lower, Option.some.injEq] at h
        exact ⟨h.symm, i, j, rfl, rfl, lower⟩
      · simp [padding, lower] at h

theorem accepts_putChild (x : Document) (s : Segment) (c : Document) :
    (x.putChild s c).Accepts s := by
  cases s <;> trivial

theorem accepts_of_child? {c : Document} (h : x.child? s = some c) : x.Accepts s := by
  cases s <;> cases x <;> simp_all [Accepts, child?, fields, items]

theorem accepts_iff_of_alike (h : s.Alike t) : x.Accepts s ↔ x.Accepts t := by
  cases s <;> cases t <;> cases x <;> simp_all [Accepts, Segment.Alike]

theorem not_accepts_of_not_alike (h : ¬ s.Alike t) (hx : x.Accepts t) : ¬ x.Accepts s := by
  cases s <;> cases t <;> cases x <;> simp_all [Accepts, Segment.Alike]

@[simp] theorem child?_null (s : Segment) : null.child? s = none := by
  cases s <;> rfl

theorem child?_of_not_accepts (h : ¬ x.Accepts s) : x.child? s = none := by
  cases hc : x.child? s with
  | none => rfl
  | some c => exact absurd (accepts_of_child? hc) h

theorem child_of_not_accepts (h : ¬ x.Accepts s) : x.child s = null := by
  rw [child, child?_of_not_accepts h, Option.getD_none]

theorem child_of_child? {c : Document} (h : x.child? s = some c) : x.child s = c := by
  simp [child, h]

/-- A value that gives way does not matter. -/
theorem putChild_of_not_accepts (h : ¬ x.Accepts s) (c : Document) :
    x.putChild s c = null.putChild s c := by
  cases s <;> cases x <;> simp_all [Accepts, putChild, fields, items]

theorem getElem?_padded (items : List Document) (i j : Nat) :
    (padded items i)[j]? = items[j]?.or (if j ≤ i then some null else none) := by
  by_cases h : j < items.length
  · rw [padded, List.getElem?_append_left h, List.getElem?_eq_getElem h, Option.some_or]
  · rw [padded, List.getElem?_append_right (Nat.le_of_not_lt h), List.getElem?_replicate,
      List.getElem?_eq_none (Nat.le_of_not_lt h), Option.none_or]
    congr 1
    simp only [eq_iff_iff]
    omega

theorem getElem?_padded_self (items : List Document) (i : Nat) :
    (padded items i)[i]? = some (items[i]?.getD null) := by
  rw [getElem?_padded, if_pos (Nat.le_refl i)]
  cases items[i]? <;> rfl

theorem grown?_of_le (items : List Document) {i : UInt64} (h : i.toNat ≤ maxIndex) :
    grown? items i = some (padded items i.toNat) := by
  by_cases inside : i.toNat < items.length
  · have none_missing : i.toNat + 1 - items.length = 0 := by omega
    simp [grown?, inside, padded, none_missing]
  · have fits : i.toNat + 1 < Decimal.wordBound := by
      simp only [maxIndex, Decimal.wordBound] at h ⊢
      omega
    simp [grown?, inside, fits]

/-- Every position of a padded array in which an element has been set. -/
theorem getElem?_set_padded (items : List Document) (i j : Nat) (c : Document) :
    ((padded items i).set i c)[j]? =
      if i = j then some c else items[j]?.or (if j < i then some null else none) := by
  have hlen : i < (padded items i).length := by
    simp only [padded, List.length_append, List.length_replicate]
    omega
  by_cases h : i = j
  · subst h
    simp [List.getElem?_set_self hlen]
  · have hlt : j ≤ i ↔ j < i := by omega
    simp only [List.getElem?_set_ne h, getElem?_padded, hlt, if_neg h]

@[simp] theorem child?_putChild_self (x : Document) (s : Segment) (c : Document) :
    (x.putChild s c).child? s = some c := by
  cases s with
  | field name => exact Fields.find?_insert_self name c x.fields
  | index i => simp [child?, putChild, getElem?_set_padded]

theorem child?_putChild_of_ne (alike : s.Alike t) (h : s ≠ t) (c : Document) :
    (x.putChild s c).child? t = (x.child? t).or (padding s t) := by
  cases s with
  | field name =>
    cases t with
    | field other =>
      have hne : other ≠ name := fun e => h (e ▸ rfl)
      simp [child?, putChild, padding, Fields.find?_insert_of_ne x.fields hne]
    | index j => exact alike.elim
  | index i =>
    cases t with
    | field other => exact alike.elim
    | index j =>
      have hne : i.toNat ≠ j.toNat := fun e => h (congrArg _ (UInt64.toNat_inj.1 e))
      simp only [child?, putChild, items_array, getElem?_set_padded, if_neg hne, padding,
        UInt64.lt_iff_toNat_lt]

@[simp] theorem child_putChild_self (x : Document) (s : Segment) (c : Document) :
    (x.putChild s c).child s = c := by
  simp [child]

theorem child_putChild_of_ne (alike : s.Alike t) (h : s ≠ t) (c : Document) :
    (x.putChild s c).child t = x.child t := by
  simp only [child, child?_putChild_of_ne alike h]
  cases hx : x.child? t with
  | some d => rfl
  | none =>
    cases hp : padding s t with
    | none => rfl
    | some d => simp [(padding_eq_some hp).1]

theorem child?_putChild_of_not_alike (h : ¬ s.Alike t) (c : Document) :
    (x.putChild s c).child? t = none := by
  cases s <;> cases t <;> simp_all [Segment.Alike, child?, putChild, fields, items]

theorem putChild_putChild_self (x : Document) (s : Segment) (c d : Document) :
    (x.putChild s d).putChild s c = x.putChild s c := by
  cases s with
  | field name => exact congrArg object (Fields.insert_insert_self name c d x.fields)
  | index i =>
    refine congrArg array (List.ext_getElem? fun j => ?_)
    simp only [putChild, items_array, getElem?_set_padded]
    split
    · rfl
    · cases x.items[j]? <;> simp

theorem putChild_comm (alike : s.Alike t) (h : s ≠ t) (c d : Document) :
    (x.putChild t d).putChild s c = (x.putChild s c).putChild t d := by
  cases s with
  | field name =>
    cases t with
    | field other =>
      have hne : name ≠ other := fun e => h (e ▸ rfl)
      exact congrArg object (Fields.insert_comm hne c d x.fields)
    | index j => exact alike.elim
  | index i =>
    cases t with
    | field other => exact alike.elim
    | index j =>
      have hne : i.toNat ≠ j.toNat := fun e => h (congrArg _ (UInt64.toNat_inj.1 e))
      refine congrArg array (List.ext_getElem? fun k => ?_)
      simp only [putChild, items_array, getElem?_set_padded]
      by_cases hi : i.toNat = k
      · have hj : j.toNat ≠ k := fun e => hne (hi.trans e.symm)
        simp [hi, hj]
      · by_cases hj : j.toNat = k
        · simp [hi, hj]
        · cases x.items[k]? <;> by_cases ki : k < i.toNat <;> by_cases kj : k < j.toNat <;>
            simp [hi, hj, ki, kj]

theorem child_padded (x : Document) (i : UInt64) :
    (array (padded x.items i.toNat)).child (.index i) = x.child (.index i) := by
  simp only [child, child?, items_array, getElem?_padded_self, Option.getD_some]

theorem putChild_padded (x : Document) (i : UInt64) (c : Document) :
    (array (padded x.items i.toNat)).putChild (.index i) c = x.putChild (.index i) c := by
  refine congrArg array (List.ext_getElem? fun j => ?_)
  simp only [items_array, getElem?_set_padded, getElem?_padded]
  by_cases hj : i.toNat = j
  · rw [if_pos hj, if_pos hj]
  · have order : j ≤ i.toNat ↔ j < i.toNat := by omega
    simp only [if_neg hj, order]
    cases x.items[j]? <;> simp

/-- Putting the child that is there changes nothing. -/
theorem putChild_of_child? {c : Document} (h : x.child? s = some c) : x.putChild s c = x := by
  cases s with
  | field name =>
    cases x <;> simp only [child?, fields, Fields.find?_nil, reduceCtorEq] at h
    exact congrArg object (Fields.insert_of_find? h)
  | index i =>
    cases x <;> simp only [child?, items, List.getElem?_nil, reduceCtorEq] at h
    rename_i elements
    have hlen : i.toNat < elements.length := (List.getElem?_eq_some_iff.1 h).1
    refine congrArg array (List.ext_getElem? fun j => ?_)
    simp only [items_array, getElem?_set_padded]
    by_cases hj : i.toNat = j
    · rw [if_pos hj, ← hj, h]
    · rw [if_neg hj]
      by_cases lower : j < i.toNat
      · rw [List.getElem?_eq_getElem (Nat.lt_trans lower hlen), Option.some_or]
      · simp [lower]

end Document
end ResourceLoom
