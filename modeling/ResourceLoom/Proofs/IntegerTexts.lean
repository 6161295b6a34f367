import ResourceLoom.Proofs.LongestRuns
import ResourceLoom.Proofs.Numerals
import ResourceLoom.Transform.Conversion

/-! # Integers as texts

A text is read as a 64-bit integer exactly when it is an optional sign and digits, and the value of
these is in range. An integer is written as its canonical numeral, the only one without a plus sign
and without needless zeros, and that reads back as the same integer.
-/
namespace ResourceLoom

namespace Decimal

/-- One or more ASCII digits behind an optional sign, with their value in base ten. -/
inductive SignedNumeral : List Char → Int → Prop where
  | natural {text : List Char} {n : Nat} (numeral : Numeral text n) : SignedNumeral text n
  | negative {digits : List Char} (nonempty : digits ≠ [])
      (decimal : ∀ d ∈ digits, d.isDigit = true) :
      SignedNumeral ('-' :: digits) (-(Nat.ofDigitChars 10 digits 0 : Int))

/-- A numeral without a plus sign, a zero before other digits or a negative zero. -/
structure CanonicalNumeral (text : List Char) (n : Int) : Prop where
  numeral : SignedNumeral text n
  noPlus : '+' ∉ text
  noLeadingZero : ∀ rest, text = '0' :: rest → rest = []
  noNegativeZero : ∀ rest, text ≠ '-' :: '0' :: rest

/-- The value of digits behind a sign. -/
def signedValue (negative : Bool) (digits : List Char) : Int :=
  if negative then -(Nat.ofDigitChars 10 digits 0 : Int) else Nat.ofDigitChars 10 digits 0

section SignedNumeral

variable {text digits : List Char} {n : Int}

theorem SignedNumeral.ne_nil (h : SignedNumeral text n) : text ≠ [] := by
  cases h with
  | natural numeral =>
    cases numeral with
    | bare nonempty => exact nonempty
    | signed => exact List.cons_ne_nil _ _
  | negative => exact List.cons_ne_nil _ _

theorem signedNumeral_minus_iff : SignedNumeral ('-' :: digits) n ↔
    digits ≠ [] ∧ (∀ d ∈ digits, d.isDigit = true) ∧ n = signedValue true digits := by
  constructor
  · intro h
    cases h with
    | negative nonempty decimal => exact ⟨nonempty, decimal, rfl⟩
    | natural numeral =>
      cases numeral with
      | bare _ decimal => exact absurd (decimal '-' List.mem_cons_self) (by decide)
  · rintro ⟨nonempty, decimal, rfl⟩
    exact .negative nonempty decimal

theorem signedNumeral_plus_iff : SignedNumeral ('+' :: digits) n ↔
    digits ≠ [] ∧ (∀ d ∈ digits, d.isDigit = true) ∧ n = signedValue false digits := by
  constructor
  · intro h
    cases h with
    | natural numeral =>
      cases numeral with
      | signed nonempty decimal => exact ⟨nonempty, decimal, rfl⟩
      | bare _ decimal => exact absurd (decimal '+' List.mem_cons_self) (by decide)
  · rintro ⟨nonempty, decimal, rfl⟩
    exact .natural (.signed nonempty decimal)

theorem signedNumeral_iff_of_unsigned (noMinus : ∀ rest, text ≠ '-' :: rest)
    (noPlus : ∀ rest, text ≠ '+' :: rest) : SignedNumeral text n ↔
      text ≠ [] ∧ (∀ d ∈ text, d.isDigit = true) ∧ n = signedValue false text := by
  constructor
  · intro h
    cases h with
    | negative => exact absurd rfl (noMinus _)
    | natural numeral =>
      cases numeral with
      | signed => exact absurd rfl (noPlus _)
      | bare nonempty decimal => exact ⟨nonempty, decimal, rfl⟩
  · rintro ⟨nonempty, decimal, rfl⟩
    exact .natural (.bare nonempty decimal)

end SignedNumeral

theorem signedDigits_of_digits (negative : Bool) {digits : List Char} (nonempty : digits ≠ [])
    (decimal : ∀ d ∈ digits, d.isDigit = true) :
    signedDigits negative digits =
      if inInt64 (signedValue negative digits) then .ok (.ofInt (signedValue negative digits))
      else .error (if negative then .tooSmall else .tooLarge) := by
  have run : LongestRun Char.isDigit digits [] := ⟨decimal, nofun⟩
  have whole : digits.takeWhile Char.isDigit = digits := by
    simpa using run.takeWhile_append
  have read : natural? digits ≠ none := by
    rw [natural?_eq_some_iff.2 ⟨nonempty, decimal, rfl⟩]
    exact Option.some_ne_none _
  rw [signedDigits, whole]
  simp only [if_neg read]
  rfl

/-- Digits are read as their value, if that is in range. -/
theorem signedDigits_eq_ok_iff {negative : Bool} {cs : List Char} {n : Int64} :
    signedDigits negative cs = .ok n ↔
      cs ≠ [] ∧ (∀ d ∈ cs, d.isDigit = true) ∧ n.toInt = signedValue negative cs := by
  by_cases digits : cs ≠ [] ∧ ∀ d ∈ cs, d.isDigit = true
  · rw [signedDigits_of_digits negative digits.1 digits.2]
    constructor
    · intro h
      split at h
      · rename_i fits
        cases h
        exact ⟨digits.1, digits.2, toInt_ofInt_of_inInt64 fits⟩
      · cases h
    · rintro ⟨-, -, value⟩
      rw [← value, if_pos (inInt64_toInt n), Int64.ofInt_toInt]
  · have unread : natural? cs = none := by
      rw [Option.eq_none_iff_forall_ne_some]
      intro value read
      obtain ⟨nonempty, decimal, -⟩ := natural?_eq_some_iff.1 read
      exact digits ⟨nonempty, decimal⟩
    have refused : signedDigits negative cs ≠ .ok n := by
      rw [signedDigits]
      simp only [if_pos unread]
      generalize inInt64 _ = fits
      cases fits <;> simp
    exact ⟨fun h => absurd h refused, fun h => absurd ⟨h.1, h.2.1⟩ digits⟩

theorem readInteger_eq_ok_iff {s : String} {n : Int64} :
    readInteger s = .ok n ↔ SignedNumeral s.toList n.toInt := by
  unfold readInteger
  split
  · rename_i empty
    rw [empty]
    exact ⟨nofun, fun h => absurd rfl h.ne_nil⟩
  · rename_i digits minus
    rw [minus, signedDigits_eq_ok_iff, signedNumeral_minus_iff]
  · rename_i digits plus
    rw [plus, signedDigits_eq_ok_iff, signedNumeral_plus_iff]
  · rename_i noMinus noPlus
    rw [signedDigits_eq_ok_iff, signedNumeral_iff_of_unsigned noMinus noPlus]

section Digits

variable {n : Nat} {d : Char} {digits rest : List Char}

theorem head?_toDigits (positive : 0 < n) : (Nat.toDigits 10 n).head? ≠ some '0' := by
  induction n using Nat.strongRecOn with
  | ind n ih =>
    rw [Nat.toDigits_eq_if (by decide)]
    split
    · simpa using Nat.ne_of_gt positive
    · have before := ih (n / 10) (by omega) (by omega)
      obtain ⟨d, rest, digits⟩ := List.exists_cons_of_ne_nil (@Nat.toDigits_ne_nil (n / 10) 10)
      rwa [digits] at before ⊢

theorem eq_nil_of_toDigits_eq_zero_cons (h : Nat.toDigits 10 n = '0' :: rest) :
    n = 0 ∧ rest = [] := by
  by_cases positive : 0 < n
  · have first := head?_toDigits positive
    rw [h] at first
    exact absurd rfl first
  · obtain rfl : n = 0 := by omega
    exact ⟨rfl, (List.cons.inj h).2.symm⟩

theorem digitChar_of_isDigit (digit : d.isDigit = true) :
    d.toNat - '0'.toNat < 10 ∧ Nat.digitChar (d.toNat - '0'.toNat) = d := by
  have range : 48 ≤ d.toNat ∧ d.toNat ≤ 57 := Char.isDigit_iff_toNat.1 digit
  have small : d.toNat - 48 < 10 := by omega
  have rebuilt : 48 + (d.toNat - 48) = d.toNat := by omega
  exact ⟨small, Char.toNat_inj.1 ((Nat.toNat_digitChar_of_lt_ten small).trans rebuilt)⟩

/-- More digits behind those of a number are the digits of the number that all of them write. -/
theorem toDigits_append (positive : 0 < n) (decimal : ∀ d ∈ digits, d.isDigit = true) :
    Nat.toDigits 10 n ++ digits = Nat.toDigits 10 (Nat.ofDigitChars 10 digits n) := by
  induction digits generalizing n with
  | nil => simp
  | cons d digits ih =>
    obtain ⟨digit, others⟩ := List.forall_mem_cons.1 decimal
    obtain ⟨small, same⟩ := digitChar_of_isDigit digit
    have joined := Nat.toDigits_append_toDigits (b := 10) (by decide) positive small
    rw [Nat.toDigits_of_lt_base small, same] at joined
    rw [Nat.ofDigitChars_cons, ← ih (by omega) others, ← joined, List.append_assoc,
      List.singleton_append]

theorem toDigits_ofDigitChars (nonempty : digits ≠ []) (decimal : ∀ d ∈ digits, d.isDigit = true)
    (noLeadingZero : ∀ rest, digits = '0' :: rest → rest = []) :
    Nat.toDigits 10 (Nat.ofDigitChars 10 digits 0) = digits := by
  cases digits with
  | nil => exact absurd rfl nonempty
  | cons d rest =>
    obtain ⟨digit, others⟩ := List.forall_mem_cons.1 decimal
    obtain ⟨small, same⟩ := digitChar_of_isDigit digit
    by_cases zero : d = '0'
    · subst zero
      rw [noLeadingZero rest rfl]
      rfl
    · have positive : 0 < d.toNat - '0'.toNat := by
        refine Nat.pos_of_ne_zero fun none => zero ?_
        rw [← same, none]
        rfl
      rw [Nat.ofDigitChars_cons, Nat.mul_zero, Nat.zero_add, ← toDigits_append positive others,
        Nat.toDigits_of_lt_base small, same, List.singleton_append]

end Digits

theorem toList_toString (n : Int) :
    (toString n).toList = (if n < 0 then ['-'] else []) ++ Nat.toDigits 10 n.natAbs := by
  rw [Int.toString_eq_repr, Int.repr_eq_if]
  split
  · have magnitude : n.toNat = n.natAbs := by omega
    rw [if_neg (by omega), Nat.toList_repr, magnitude, List.nil_append]
  · have magnitude : (-n).toNat = n.natAbs := by omega
    rw [if_pos (by omega), String.toList_append, Nat.toList_repr, magnitude]
    rfl

theorem signedNumeral_toString (n : Int) : SignedNumeral (toString n).toList n := by
  rw [toList_toString]
  have digits : ∀ d ∈ Nat.toDigits 10 n.natAbs, d.isDigit = true := fun d =>
    Nat.isDigit_of_mem_toDigits (by decide) (by decide)
  split
  · have written := SignedNumeral.negative Nat.toDigits_ne_nil digits
    have value : -(n.natAbs : Int) = n := by omega
    rwa [Nat.ofDigitChars_ten_toDigits, value] at written
  · have written := SignedNumeral.natural (Numeral.toDigits n.natAbs)
    have value : (n.natAbs : Int) = n := by omega
    rwa [value] at written

theorem canonicalNumeral_toString (n : Int) : CanonicalNumeral (toString n).toList n := by
  have digit {d : Char} : d ∈ Nat.toDigits 10 n.natAbs → d.isDigit = true :=
    Nat.isDigit_of_mem_toDigits (by decide) (by decide)
  have written := toList_toString n
  refine ⟨signedNumeral_toString n, fun plus => ?_, fun rest zero => ?_, fun rest zero => ?_⟩
  · rw [written, List.mem_append] at plus
    rcases plus with sign | figure
    · split at sign <;> simp at sign
    · exact absurd (digit figure) (by decide)
  · rw [written] at zero
    split at zero
    · exact absurd (List.cons.inj zero).1 (by decide)
    · exact (eq_nil_of_toDigits_eq_zero_cons zero).2
  · rw [written] at zero
    split at zero
    · have none := (eq_nil_of_toDigits_eq_zero_cons (List.cons.inj zero).2).1
      omega
    · have minus : '-' ∈ Nat.toDigits 10 n.natAbs := by
        rw [List.nil_append] at zero
        simp [zero]
      exact absurd (digit minus) (by decide)

/-- An integer has no other canonical numeral. -/
theorem CanonicalNumeral.eq_toString {text : List Char} {n : Int} (h : CanonicalNumeral text n) :
    text = (toString n).toList := by
  obtain ⟨numeral, noPlus, noLeadingZero, noNegativeZero⟩ := h
  rw [toList_toString]
  cases numeral with
  | natural numeral =>
    cases numeral with
    | signed => exact absurd List.mem_cons_self noPlus
    | bare nonempty decimal =>
      rw [if_neg (by omega), Int.natAbs_natCast,
        toDigits_ofDigitChars nonempty decimal noLeadingZero, List.nil_append]
  | @negative digits nonempty decimal =>
    have noZero (rest : List Char) : digits ≠ '0' :: rest := by
      rintro rfl
      exact noNegativeZero rest rfl
    have same := toDigits_ofDigitChars nonempty decimal fun rest zero => absurd zero (noZero rest)
    have positive : 0 < Nat.ofDigitChars 10 digits 0 := by
      refine Nat.pos_of_ne_zero fun none => noZero [] ?_
      rw [← same, none]
      rfl
    rw [if_pos (by omega), Int.natAbs_neg, Int.natAbs_natCast, same, List.singleton_append]

end Decimal

namespace Conversion

open Decimal

theorem convert_string_int (n : Int64) :
    convert .string (.int n) = .ok (.string (toString n.toInt)) := rfl

theorem convert_int_eq_ok_iff {s : String} {w : Document} : convert .int (.string s) = .ok w ↔
    ∃ n : Int64, SignedNumeral s.toList n.toInt ∧ w = .int n := by
  have reading : convert .int (.string s) = integerOfText s := rfl
  simp only [reading, ← readInteger_eq_ok_iff, integerOfText]
  cases readInteger s with
  | ok n => simp [eq_comm]
  | error fault => simp [failed]

/-- Every integer is written as its one canonical numeral, which reads back as the integer. A text
reads as an integer exactly when it is a numeral, with an optional sign, of one in range. -/
theorem integer_text_round_trip :
    (∀ n : Int64, ∃ text : String, convert .string (.int n) = .ok (.string text) ∧
      CanonicalNumeral text.toList n.toInt ∧
      (∀ other, CanonicalNumeral other n.toInt → other = text.toList) ∧
      convert .int (.string text) = .ok (.int n)) ∧
    ∀ (s : String) (w : Document), convert .int (.string s) = .ok w ↔
      ∃ value : Int, SignedNumeral s.toList value ∧
        (Int64.minValue.toInt ≤ value ∧ value ≤ Int64.maxValue.toInt) ∧
        w = .int (.ofInt value) := by
  refine ⟨fun n => ?_, fun s w => ?_⟩
  · have canonical := canonicalNumeral_toString n.toInt
    exact ⟨_, convert_string_int n, canonical, fun other => CanonicalNumeral.eq_toString,
      convert_int_eq_ok_iff.2 ⟨n, canonical.numeral, rfl⟩⟩
  · rw [convert_int_eq_ok_iff]
    constructor
    · rintro ⟨n, numeral, rfl⟩
      exact ⟨n.toInt, numeral, inInt64_iff.1 (inInt64_toInt n), by rw [Int64.ofInt_toInt]⟩
    · rintro ⟨value, numeral, range, rfl⟩
      have same := toInt_ofInt_of_inInt64 (inInt64_iff.2 range)
      exact ⟨_, same.symm ▸ numeral, rfl⟩

example : (convert .int (.string "-007") >>= convert .string) = .ok (.string "-7") := by
  rfl

end Conversion
end ResourceLoom
