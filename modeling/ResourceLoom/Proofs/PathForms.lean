import ResourceLoom.Proofs.PathGrammar

/-! # Written forms of paths

The text of a path is read back as the path exactly when no field name in it is empty or holds a
closing bracket, and reading never gives any other path. A name in brackets is never mistaken for
an array position: names are put there for a point or a bracket, and numbers hold neither.
-/
namespace ResourceLoom

namespace Decimal.Numeral

/-- Points and brackets are no part of any number. -/
theorem isSeparator_of_mem {cs : List Char} {n : Nat} (h : Numeral cs n) :
    ∀ c ∈ cs, isSeparator c = false := by
  have plain (c : Char) (digit : c.isDigit = true) : isSeparator c = false := by
    refine isSeparator_eq_false_iff.2 ⟨?_, ?_, ?_⟩
    all_goals
      rintro rfl
      exact absurd digit (by decide)
  cases h with
  | bare _ decimal => exact fun c mem => plain c (decimal c mem)
  | signed _ decimal => exact List.forall_mem_cons.2 ⟨rfl, fun c mem => plain c (decimal c mem)⟩

end Decimal.Numeral

/-- The segment is a position, or a field whose name can be written. -/
def Segment.Readable : Segment → Prop
  | field name => name ≠ "" ∧ ']' ∉ name.toList
  | index _ => True

/-- The path has a text from which it is read back. -/
structure Path.Canonical (path : Path) : Prop where
  nonempty : path ≠ []
  readable : ∀ s ∈ path, s.Readable

namespace Path

variable {item : Item} {items : List Item} {s : Segment} {path : Path}

theorem exists_item_of_position (i : UInt64) :
    ∃ item : Item, item.Valid ∧ item.Denotes (.index i) ∧
      ∀ head, (Segment.index i).form head = item.text head := by
  have numeral := Decimal.Numeral.toDigits i.toNat
  have denotes : (Item.content (Nat.toDigits 10 i.toNat)).Denotes (.index i) := by
    have position := Item.Denotes.position numeral i.toNat_lt
    rwa [UInt64.ofNat_toNat] at position
  refine ⟨.content _, ⟨Nat.toDigits_ne_nil, fun c mem => ?_⟩, denotes, fun head => rfl⟩
  exact (isSeparator_eq_false_iff.1 (numeral.isSeparator_of_mem c mem)).2.2

/-- A name is written bare when it has nothing but plain characters, else in brackets. -/
theorem exists_item_of_field {name : String} (h : (Segment.field name).Readable) :
    ∃ item : Item, item.Valid ∧ item.Denotes (.field name) ∧
      ∀ head, (Segment.field name).form head = item.text head := by
  obtain ⟨nonempty, notClosing⟩ := h
  have chars : name.toList ≠ [] := fun empty => nonempty (String.toList_eq_nil_iff.1 empty)
  have same : String.ofList name.toList = name := String.ofList_toList
  by_cases plain : ∀ c ∈ name.toList, isSeparator c = false
  -- Being empty is the other reason for brackets, and no readable name is.
  · have bare : Segment.needsBrackets name.toList = false := by
      simpa [Segment.needsBrackets, chars] using plain
    have denotes := Item.Denotes.name name.toList
    rw [same] at denotes
    refine ⟨.name name.toList, ⟨chars, fun c mem => ?_⟩, denotes, fun head => ?_⟩
    · exact isSeparator_eq_false_iff.1 (plain c mem)
    · simp only [Segment.form, bare, Bool.false_eq_true, if_false, Item.text]
  · obtain ⟨c, mem, separator⟩ : ∃ c ∈ name.toList, isSeparator c = true := by
      simpa using plain
    have bracketed : Segment.needsBrackets name.toList = true := by
      simp only [Segment.needsBrackets, Bool.or_eq_true, List.any_eq_true]
      exact .inr ⟨c, mem, separator⟩
    have noNumber (n : Nat) : ¬ Decimal.Numeral name.toList n := fun numeral =>
      Bool.false_ne_true ((numeral.isSeparator_of_mem c mem).symm.trans separator)
    have denotes : (Item.content name.toList).Denotes (.field (.ofList name.toList)) :=
      .field fun n written => absurd written (noNumber n)
    rw [same] at denotes
    refine ⟨.content name.toList, ⟨chars, fun d inside => ?_⟩, denotes, fun head => ?_⟩
    · rintro rfl
      exact notClosing inside
    · simp [Segment.form, bracketed, Item.text]

theorem exists_item (h : s.Readable) :
    ∃ item : Item, item.Valid ∧ item.Denotes s ∧ ∀ head, s.form head = item.text head := by
  cases s with
  | index i => exact exists_item_of_position i
  | field name => exact exists_item_of_field h

/-- A canonical path is written by items that stand for its segments. -/
theorem exists_spelling (readable : ∀ s ∈ path, s.Readable) :
    ∃ items : List Item, (∀ item ∈ items, item.Valid) ∧ List.Forall₂ Item.Denotes items path ∧
      Item.spelling items = path.form ∧
      items.flatMap (Item.text false) = path.flatMap (Segment.form false) := by
  induction path with
  | nil => exact ⟨[], nofun, .nil, rfl, rfl⟩
  | cons s rest ih =>
    obtain ⟨first, others⟩ := List.forall_mem_cons.1 readable
    obtain ⟨item, valid, denotes, written⟩ := exists_item first
    obtain ⟨items, validItems, denoted, -, further⟩ := ih others
    have validAll := List.forall_mem_cons.2 ⟨valid, validItems⟩
    refine ⟨item :: items, validAll, .cons denotes denoted, ?_, ?_⟩
    · rw [Item.spelling, form, written, further]
    · rw [List.flatMap_cons, List.flatMap_cons, written, further]

theorem parse_display_of_canonical (h : path.Canonical) : parse path.display = .ok path := by
  obtain ⟨items, valid, denoted, spelled, -⟩ := exists_spelling h.readable
  have nonempty : items ≠ [] := by
    rintro rfl
    cases denoted
    exact h.nonempty rfl
  have spells : Item.Spells items path.display.toList := by
    rw [display, String.toList_ofList]
    exact ⟨nonempty, valid, spelled⟩
  exact parse_of_spells spells denoted

theorem readable_of_denotes (valid : item.Valid) (denotes : item.Denotes s) : s.Readable := by
  have named {cs : List Char} (nonempty : cs ≠ []) (notClosing : ∀ c ∈ cs, c ≠ ']') :
      (Segment.field (.ofList cs)).Readable := by
    refine ⟨fun empty => nonempty ?_, fun mem => ?_⟩
    · simpa using congrArg String.toList empty
    · rw [String.toList_ofList] at mem
      exact notClosing ']' mem rfl
  cases denotes with
  | name cs => exact named valid.1 fun c mem => (valid.2 c mem).2.2
  | position => trivial
  | field => exact named valid.1 valid.2

theorem readable_of_denoted (valid : ∀ item ∈ items, item.Valid)
    (denoted : List.Forall₂ Item.Denotes items path) : ∀ s ∈ path, s.Readable := by
  induction denoted with
  | nil => exact nofun
  | cons denotes denoted ih =>
    obtain ⟨first, others⟩ := List.forall_mem_cons.1 valid
    exact List.forall_mem_cons.2 ⟨readable_of_denotes first denotes, ih others⟩

theorem canonical_of_parse {text : String} (h : parse text = .ok path) : path.Canonical := by
  obtain ⟨items, spells, denoted⟩ := exists_spells_of_parse h
  exact ⟨(parse_eq_ok_iff.1 h).1, readable_of_denoted spells.valid denoted⟩

/-- Numbers are names outside brackets; in brackets a point or a bracket makes a name. -/
example : parse "[a[b][1.5].007[5]" =
    .ok [.field "a[b", .field "1.5", .field "007", .index 5] := rfl

/-- A position has several texts, of which one is displayed. -/
example : parse "ports[+005]" = .ok [.field "ports", .index 5] := rfl

/-- The paths that are read back from their own text are the canonical ones, and these are all that
is read from any text. -/
theorem parse_display_iff_canonical :
    (∀ path : Path, parse path.display = .ok path ↔ path.Canonical) ∧
    ∀ (text : String) (path : Path), parse text = .ok path →
      path.Canonical ∧ parse path.display = .ok path := by
  refine ⟨fun path => ⟨canonical_of_parse, parse_display_of_canonical⟩, fun text path h => ?_⟩
  have canonical := canonical_of_parse h
  exact ⟨canonical, parse_display_of_canonical canonical⟩

end Path
end ResourceLoom
