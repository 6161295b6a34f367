import ResourceLoom.Proofs.DoubleTexts
import ResourceLoom.Proofs.TransformSteps

/-! # What becomes of a conversion

A conversion makes a value of the requested kind, which it then leaves alone, or it fails for a
reason that the value shows: it has none of the four kinds, or it is a text that the requested kind
does not write. No pair of kinds is without a conversion.
-/
namespace ResourceLoom.Conversion

open Decimal

/-- Nulls, arrays, objects and integers beyond the signed range are of none of the four kinds. -/
inductive WithoutKind : Document → Prop where
  | null : WithoutKind .null
  | array (items : List Document) : WithoutKind (.array items)
  | object (fields : List (String × Document)) : WithoutKind (.object fields)
  | word (value : UInt64) (beyond : signedBound ≤ value.toNat) :
      WithoutKind (.number (.word value beyond))

/-- The grammar of the texts of each kind. -/
def InGrammar : Kind → String → Prop
  | .string, _ => True
  | .int, s => ∃ n : Int, SignedNumeral s.toList n ∧
      Int64.minValue.toInt ≤ n ∧ n ≤ Int64.maxValue.toInt
  | .bool, s =>
    s ∈ ["1", "t", "T", "true", "TRUE", "True", "0", "f", "F", "false", "FALSE", "False"]
  | .float64, s => ∃ value, FloatLiteral s.toList value

/-- The text is not of the grammar of the kind, or it writes a double that is not finite. -/
def Unreadable (target : Kind) (s : String) : Prop :=
  ¬ InGrammar target s ∨
    target = .float64 ∧ ∃ value, FloatLiteral s.toList value ∧ ¬ Finite value

section Texts

variable {target : Kind} {s : String} {v : Document}

theorem withoutKind_iff : WithoutKind v ↔ Kind.of? v = none := by
  constructor
  · intro h
    cases h <;> rfl
  · intro h
    cases v with
    | null => exact .null
    | array items => exact .array items
    | object fields => exact .object fields
    | number value =>
      cases value with
      | word value beyond => exact .word value beyond
      | int | float => cases h
    | bool | string => cases h

theorem not_unreadable_string (s : String) : ¬ Unreadable .string s := by
  simp [Unreadable, InGrammar]

/-- How a conversion ends: the value has no kind, or it is a text that the requested kind does not
read, or it is converted. -/
inductive Ending (target : Kind) : Document → Except Error Document → Prop where
  | refused {v : Document} (without : WithoutKind v) :
      Ending target v (.error (.ofCause (.unsupportedInputKind v.kindName)))
  | unread {s : String} (fault : ConversionFault) (unreadable : Unreadable target s) :
      Ending target (.string s) (.error (.ofCause (.parseFailed s target fault)))
  | converted {v : Document} (w : Document) (kinded : ¬ WithoutKind v)
      (readable : ∀ s, v = .string s → ¬ Unreadable target s) : Ending target v (.ok w)

theorem Ending.read (w : Document) (readable : ¬ Unreadable target s) :
    Ending target (.string s) (.ok w) := by
  refine .converted w nofun fun text same => ?_
  cases same
  exact readable

theorem ending_int (s : String) : Ending .int (.string s) (convert .int (.string s)) := by
  have reading : convert .int (.string s) = integerOfText s := rfl
  rw [reading, integerOfText]
  cases read : readInteger s with
  | ok n =>
    have numeral : InGrammar .int s := ⟨n.toInt, readInteger_eq_ok_iff.1 read,
      inInt64_iff.1 (inInt64_toInt n)⟩
    exact .read _ (by simp [Unreadable, numeral])
  | error fault =>
    refine .unread _ (.inl ?_)
    rintro ⟨n, numeral, range⟩
    have value := toInt_ofInt_of_inInt64 (inInt64_iff.2 range)
    rw [← value, ← readInteger_eq_ok_iff, read] at numeral
    cases numeral

theorem ending_bool (s : String) : Ending .bool (.string s) (convert .bool (.string s)) := by
  have reading : convert .bool (.string s) = boolOfText s := rfl
  have either : s ∈ ["1", "t", "T", "true", "TRUE", "True"] ∨
      s ∈ ["0", "f", "F", "false", "FALSE", "False"] ↔ InGrammar .bool s :=
    List.mem_append.symm
  rw [reading, boolOfText]
  split
  · rename_i yes
    exact .read _ (by simp [Unreadable, either.1 (.inl yes)])
  · split
    · rename_i no
      exact .read _ (by simp [Unreadable, either.1 (.inr no)])
    · rename_i notYes notNo
      exact .unread _ (.inl fun grammar => (either.2 grammar).elim notYes notNo)

theorem ending_float64 (s : String) :
    Ending .float64 (.string s) (convert .float64 (.string s)) := by
  have reading : convert .float64 (.string s) = floatOfText s := rfl
  rw [reading, floatOfText]
  rcases read : readFloat s with fault | x
  · refine .unread _ (.inl ?_)
    rintro ⟨value, literal⟩
    obtain ⟨x, made, -⟩ := literal.read
    rw [read] at made
    cases made
  · obtain ⟨value, literal⟩ := exists_literal read
    have finite (other : Option ℚ) (same : FloatLiteral s.toList other) :
        x = none ↔ ¬ Finite other := by
      obtain ⟨y, made, finite⟩ := same.read
      rw [read, Except.ok.injEq] at made
      exact made ▸ finite
    cases x with
    | some x =>
      refine .read _ ?_
      rintro (outside | ⟨-, other, same, infinite⟩)
      · exact outside ⟨value, literal⟩
      · exact absurd ((finite other same).2 infinite) (Option.some_ne_none x)
    | none => exact .unread _ (.inr ⟨rfl, value, literal, (finite value literal).1 rfl⟩)

theorem ending_text (target : Kind) (s : String) :
    Ending target (.string s) (convert target (.string s)) := by
  cases target with
  | string => exact .read _ (not_unreadable_string s)
  | int => exact ending_int s
  | bool => exact ending_bool s
  | float64 => exact ending_float64 s

end Texts

section Values

variable {target source : Kind} {v w : Document}

theorem convert_of_kind (h : Kind.of? v = some target) : convert target v = .ok v := by
  simp [convert, h]

/-- Only texts can fail to be converted. -/
theorem exists_convert_of_not_text (target : Kind) (kind : Kind.of? v = some source)
    (noText : ∀ s, v ≠ .string s) : ∃ w, convert target v = .ok w := by
  cases v with
  | string s => exact absurd rfl (noText s)
  | bool b => cases target <;> exact ⟨_, rfl⟩
  | number value =>
    cases value with
    | int n => cases target <;> exact ⟨_, rfl⟩
    | float x => cases target <;> exact ⟨_, rfl⟩
    | word => cases kind
  | null | array | object => cases kind

theorem kind_of_convert (h : convert target v = .ok w) : Kind.of? w = some target := by
  cases kind : Kind.of? v with
  | none =>
    rw [Transform.convert_of_no_kind target kind] at h
    cases h
  | some source =>
    rcases Transform.converted_convert target kind with ⟨made, done, made_kind⟩ |
      ⟨input, fault, failed⟩
    · rw [done, Except.ok.injEq] at h
      exact h ▸ made_kind
    · rw [failed] at h
      cases h

theorem ending_convert (target : Kind) (v : Document) : Ending target v (convert target v) := by
  cases kind : Kind.of? v with
  | none =>
    rw [Transform.convert_of_no_kind target kind]
    exact .refused (withoutKind_iff.2 kind)
  | some source =>
    have kinded : ¬ WithoutKind v := by
      rw [withoutKind_iff, kind]
      exact Option.some_ne_none source
    by_cases text : ∃ s, v = .string s
    · obtain ⟨s, rfl⟩ := text
      exact ending_text target s
    · have noText := not_exists.1 text
      obtain ⟨w, done⟩ := exists_convert_of_not_text target kind noText
      rw [done]
      exact .converted w kinded fun s same => absurd same (noText s)

/-- A conversion succeeds with a value of the requested kind, which it leaves alone from then on,
and with the value itself if it had that kind. It fails exactly for values without a kind and for
texts that the requested kind does not read, and with no other cause than these. -/
theorem convert_delivers (target : Kind) (v : Document) :
    (∀ w, convert target v = .ok w →
      Kind.of? w = some target ∧ convert target w = .ok w ∧ (Kind.of? v = some target → w = v)) ∧
    (∀ e, convert target v = .error e → e = .ofCause (.unsupportedInputKind v.kindName) ∨
      ∃ s fault, v = .string s ∧ e = .ofCause (.parseFailed s target fault)) ∧
    ((∃ kind, convert target v = .error (.ofCause (.unsupportedInputKind kind))) ↔
      WithoutKind v) ∧
    ((∃ input kind fault, convert target v = .error (.ofCause (.parseFailed input kind fault))) ↔
      ∃ s, v = .string s ∧ target ≠ .string ∧ Unreadable target s) := by
  refine ⟨fun w made => ⟨kind_of_convert made, convert_of_kind (kind_of_convert made), ?_⟩, ?_⟩
  · intro same
    rw [convert_of_kind same, Except.ok.injEq] at made
    exact made.symm
  · have ending := ending_convert target v
    generalize convert target v = result at ending
    cases ending with
    | refused without =>
      refine ⟨fun e failed => .inl (Except.error.inj failed).symm, ?_, ?_⟩
      · exact iff_of_true ⟨_, rfl⟩ without
      · refine iff_of_false nofun ?_
        rintro ⟨s, rfl, -, -⟩
        cases without
    | @unread s fault unreadable =>
      have target_ne : target ≠ .string := by
        rintro rfl
        exact not_unreadable_string s unreadable
      refine ⟨fun e failed => .inr ⟨s, fault, rfl, (Except.error.inj failed).symm⟩, ?_, ?_⟩
      · exact iff_of_false nofun nofun
      · exact iff_of_true ⟨s, target, fault, rfl⟩ ⟨s, rfl, target_ne, unreadable⟩
    | converted w kinded readable =>
      refine ⟨nofun, iff_of_false nofun kinded, iff_of_false nofun ?_⟩
      rintro ⟨s, rfl, -, unreadable⟩
      exact readable s rfl unreadable

end Values
end ResourceLoom.Conversion
