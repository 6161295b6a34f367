import ResourceLoom.Decimal.Numeral

/-! # Numerals

Which texts are whole numbers, and of which value: one or more digits, and for a 64-bit number an
optional plus sign before them. The digits of a number are a numeral of it.
-/
namespace ResourceLoom.Decimal

/-- The range is that of the integers that 64 bits hold. -/
theorem inInt64_iff {n : Int} :
    inInt64 n = true ↔ Int64.minValue.toInt ≤ n ∧ n ≤ Int64.maxValue.toInt := by
  have low : (-signedBound : Int) = Int64.minValue.toInt := rfl
  have high : (signedBound : Int) = Int64.maxValue.toInt + 1 := rfl
  rw [inInt64, Bool.and_eq_true, decide_eq_true_iff, decide_eq_true_iff, low, high,
    Int.lt_add_one_iff]

theorem toInt_ofInt_of_inInt64 {n : Int} (h : inInt64 n = true) : (Int64.ofInt n).toInt = n := by
  obtain ⟨low, high⟩ := inInt64_iff.1 h
  exact Int64.toInt_ofInt_of_le low (Int.lt_add_one_of_le high)

theorem inInt64_toInt (n : Int64) : inInt64 n.toInt = true :=
  inInt64_iff.2 ⟨n.minValue_le_toInt, n.toInt_le⟩

/-- One or more ASCII digits behind an optional plus sign, with their value in base ten. -/
inductive Numeral : List Char → Nat → Prop where
  | bare {digits : List Char} (nonempty : digits ≠ [])
      (decimal : ∀ d ∈ digits, d.isDigit = true) : Numeral digits (Nat.ofDigitChars 10 digits 0)
  | signed {digits : List Char} (nonempty : digits ≠ [])
      (decimal : ∀ d ∈ digits, d.isDigit = true) :
      Numeral ('+' :: digits) (Nat.ofDigitChars 10 digits 0)

theorem natural?_eq_some_iff {cs : List Char} {n : Nat} : natural? cs = some n ↔
    cs ≠ [] ∧ (∀ d ∈ cs, d.isDigit = true) ∧ Nat.ofDigitChars 10 cs 0 = n := by
  have value : ofDigits cs = Nat.ofDigitChars 10 cs 0 := rfl
  simp only [natural?, value, List.all_eq_true]
  split
  · rename_i h
    exact ⟨fun same => ⟨h.1, h.2, Option.some.inj same⟩, fun all => congrArg some all.2.2⟩
  · rename_i h
    simp only [reduceCtorEq, false_iff]
    exact fun digits => h ⟨digits.1, digits.2.1⟩

/-- A 64-bit number is read from its numerals. -/
theorem word?_eq_some_iff {cs : List Char} {w : UInt64} : word? cs = some w ↔
    ∃ n, Numeral cs n ∧ n < UInt64.size ∧ .ofNat n = w := by
  have range (n : Nat) : (if n < wordBound then some (UInt64.ofNat n) else none) = some w ↔
      n < UInt64.size ∧ .ofNat n = w := by
    have bound : wordBound = UInt64.size := rfl
    simp [bound]
  unfold word?
  split
  · rename_i digits
    simp only [Option.bind_eq_bind, Option.bind_eq_some_iff, natural?_eq_some_iff, range]
    constructor
    · rintro ⟨n, ⟨nonempty, decimal, rfl⟩, fits, same⟩
      exact ⟨_, .signed nonempty decimal, fits, same⟩
    · rintro ⟨n, numeral, fits, same⟩
      cases numeral with
      | signed nonempty decimal => exact ⟨_, ⟨nonempty, decimal, rfl⟩, fits, same⟩
      | bare _ decimal => exact absurd (decimal '+' List.mem_cons_self) (by decide)
  · rename_i unsigned
    simp only [Option.bind_eq_bind, Option.bind_eq_some_iff, natural?_eq_some_iff, range]
    constructor
    · rintro ⟨n, ⟨nonempty, decimal, rfl⟩, fits, same⟩
      exact ⟨_, .bare nonempty decimal, fits, same⟩
    · rintro ⟨n, numeral, fits, same⟩
      cases numeral with
      | signed => exact absurd rfl (unsigned _)
      | bare nonempty decimal => exact ⟨_, ⟨nonempty, decimal, rfl⟩, fits, same⟩

theorem Numeral.toDigits (n : Nat) : Numeral (Nat.toDigits 10 n) n := by
  have digits : ∀ d ∈ Nat.toDigits 10 n, d.isDigit = true := fun d =>
    Nat.isDigit_of_mem_toDigits (by decide) (by decide)
  have numeral := Numeral.bare Nat.toDigits_ne_nil digits
  rwa [Nat.ofDigitChars_ten_toDigits] at numeral

/-- The number that digits write; no digits write none. -/
def value? (digits : List Char) : Option Nat :=
  if digits = [] then none else some (Nat.ofDigitChars 10 digits 0)

theorem natural?_of_digits {digits : List Char} (decimal : ∀ d ∈ digits, d.isDigit = true) :
    natural? digits = value? digits := by
  by_cases empty : digits = []
  · subst empty
    rfl
  · rw [value?, if_neg empty]
    exact natural?_eq_some_iff.2 ⟨empty, decimal, rfl⟩

end ResourceLoom.Decimal
