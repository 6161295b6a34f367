import ResourceLoom.Proofs.LookupOutcomes
import ResourceLoom.Proofs.PathForms

/-! # What paths begin with

A path begins with a field unless its text begins with a position in brackets. Names are always
fields, and so is any other content of brackets, but a number of 64 bits in brackets is a position
wherever it stands, also at the head of a text. So the elements of an array are reached from the
array itself by texts of this form, and by no others.
-/
namespace ResourceLoom

namespace Path

/-- The text begins with a number of 64 bits in brackets. -/
def BeginsWithPosition (text : List Char) : Prop :=
  ∃ digits rest n, text = '[' :: (digits ++ ']' :: rest) ∧ Decimal.Numeral digits n ∧
    n < UInt64.size

theorem valid_content_of_numeral {digits : List Char} {n : Nat} (h : Decimal.Numeral digits n) :
    (Item.content digits).Valid := by
  refine ⟨?_, fun c mem => (isSeparator_eq_false_iff.1 (h.isSeparator_of_mem c mem)).2.2⟩
  cases h with
  | bare nonempty => exact nonempty
  | signed => exact List.cons_ne_nil _ _

theorem beginsWithPosition_of_denotes {item : Item} {position : UInt64} {rest : List Item}
    (denotes : item.Denotes (.index position)) :
    BeginsWithPosition (Item.spelling (item :: rest)) := by
  cases denotes with
  | position written fits =>
    exact ⟨_, rest.flatMap (Item.text false), _, by simp [Item.spelling, Item.text], written, fits⟩

/-- What stands between the brackets at the head is the first item. -/
theorem eq_content_of_spelling {item : Item} {items : List Item} {digits rest : List Char} {n : Nat}
    (valid : item.Valid) (written : Decimal.Numeral digits n)
    (same : Item.spelling (item :: items) = '[' :: (digits ++ ']' :: rest)) :
    item = .content digits := by
  cases item with
  | name cs =>
    obtain ⟨c, cs, rfl⟩ := List.exists_cons_of_ne_nil valid.1
    obtain ⟨rfl, -⟩ := List.cons.inj same
    exact absurd rfl (valid.2 '[' List.mem_cons_self).2.1
  | content cs =>
    simp only [Item.spelling, Item.text, List.cons_append, List.append_assoc, List.nil_append,
      List.cons.injEq, true_and] at same
    obtain ⟨rfl, -⟩ := (Item.longestRun_content valid _).unique
      (Item.longestRun_content (valid_content_of_numeral written) rest) same
    rfl

theorem head_index_iff {text : String} {path : Path} (parsed : parse text = .ok path) :
    (∃ position rest, path = .index position :: rest) ↔ BeginsWithPosition text.toList := by
  obtain ⟨items, ⟨nonempty, valid, spelled⟩, denoted⟩ := exists_spells_of_parse parsed
  rw [← spelled]
  constructor
  · rintro ⟨position, rest, rfl⟩
    cases denoted with
    | cons denotes _ => exact beginsWithPosition_of_denotes denotes
  · rintro ⟨digits, behind, n, begins, written, fits⟩
    cases denoted with
    | nil => exact absurd rfl nonempty
    | @cons item s items rest denotes _ =>
      obtain rfl := eq_content_of_spelling (valid item List.mem_cons_self) written begins
      have position := Item.ofContent_of_denotes (.position written fits)
      rw [Item.ofContent_of_denotes denotes] at position
      exact ⟨_, rest, by rw [position]⟩

theorem head_field_iff {text : String} {path : Path} (parsed : parse text = .ok path) :
    (∃ name rest, path = .field name :: rest) ↔ ¬ BeginsWithPosition text.toList := by
  rw [← head_index_iff parsed]
  obtain ⟨s, rest, rfl⟩ := List.exists_cons_of_ne_nil (parse_eq_ok_iff.1 parsed).1
  cases s <;> simp

/-- A text is read as a path from a field, unless it begins with a position. Only then does it lead
to a value from an array. -/
theorem parse_head_field_iff {text : String} {path : Path} (parsed : parse text = .ok path) :
    ((∃ name rest, path = .field name :: rest) ↔ ¬ BeginsWithPosition text.toList) ∧
    ∀ elements w, (Document.array elements).lookup text = .ok (some w) →
      BeginsWithPosition text.toList := by
  refine ⟨head_field_iff parsed, fun elements w found => ?_⟩
  by_contra other
  obtain ⟨name, rest, rfl⟩ := (head_field_iff parsed).2 other
  rw [Document.lookup, parsed] at found
  cases found

/-- A name with a point in it stands in brackets at the head, and is a field all the same. -/
theorem parse_head_field_iff_bracketedName :
    parse "[example.org/app][0]" = .ok [.field "example.org/app", .index 0] ∧
      ¬ BeginsWithPosition "[example.org/app][0]".toList := by
  have parsed : parse "[example.org/app][0]" = .ok [.field "example.org/app", .index 0] := rfl
  exact ⟨parsed, (parse_head_field_iff parsed).1.1 ⟨_, _, rfl⟩⟩

/-- A text of one position is read, and from an array it leads to an element. -/
theorem parse_position_at_head :
    parse "[0]" = .ok [.index 0] ∧
      (¬ ∃ name rest, ([.index 0] : Path) = .field name :: rest) ∧
      (Document.array [.string "web"]).lookup "[0]" = .ok (some (.string "web")) :=
  ⟨rfl, nofun, rfl⟩

end Path
end ResourceLoom
