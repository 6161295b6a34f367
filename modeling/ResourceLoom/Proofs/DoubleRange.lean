import ResourceLoom.Decimal.Binary64
import Mathlib.Algebra.Order.Field.Power
import Mathlib.Algebra.Order.Ring.Rat
import Mathlib.Tactic.FieldSimp
import Mathlib.Tactic.Linarith
import Mathlib.Tactic.Positivity
import Mathlib.Tactic.Ring

/-! # The range of finite doubles

A decimal overflows when it is nearer to the 1024th power of two than to the greatest finite double,
or as near, for the tie goes to the power of two. Every smaller one is rounded to a finite double.
-/
namespace ResourceLoom.Decimal

section HalfEven

variable {num den m : Nat}

theorem div_le_halfEven (num den : Nat) : num / den ≤ halfEven num den := by
  unfold halfEven
  dsimp only
  split
  · exact Nat.le_refl _
  · split
    · exact Nat.le_succ _
    · exact Nat.le_add_right _ _

theorem halfEven_le_succ (num den : Nat) : halfEven num den ≤ num / den + 1 := by
  unfold halfEven
  dsimp only
  split
  · exact Nat.le_succ _
  · split
    · exact Nat.le_refl _
    · omega

theorem le_halfEven (positive : 0 < den) (h : m * den ≤ num) : m ≤ halfEven num den :=
  Nat.le_trans ((Nat.le_div_iff_mul_le positive).2 h) (div_le_halfEven num den)

theorem halfEven_le (h : num < m * den) : halfEven num den ≤ m :=
  Nat.le_trans (halfEven_le_succ num den) (Nat.div_lt_of_lt_mul (Nat.mul_comm m den ▸ h))

/-- An even number is reached from below at the half. -/
theorem halfEven_eq_iff (even : m % 2 = 0) (below : num < m * den) :
    halfEven num den = m ↔ (2 * m - 1) * den ≤ 2 * num := by
  have floorLt : num / den < m := Nat.div_lt_of_lt_mul (Nat.mul_comm m den ▸ below)
  have parts : den * (num / den) + num % den = num := Nat.div_add_mod num den
  have positive : 0 < den := Nat.pos_of_ne_zero (by rintro rfl; simp at below)
  have rest : num % den < den := Nat.mod_lt num positive
  by_cases last : num / den + 1 = m
  · have odd : num / den % 2 = 1 := by omega
    have half : (2 * m - 1) * den = 2 * (den * (num / den)) + den := by
      have expand : 2 * m - 1 = 2 * (num / den) + 1 := by omega
      rw [expand]
      ring
    rw [half]
    unfold halfEven
    dsimp only
    split
    · omega
    · split <;> omega
  · have atMost := halfEven_le_succ num den
    have far : (num / den + 2) * den ≤ m * den := Nat.mul_le_mul_right den (by omega)
    have expand : (num / den + 2) * den = den * (num / den) + 2 * den := by ring
    have half : (2 * m - 1) * den = 2 * (m * den) - den := by
      rw [Nat.sub_mul, Nat.mul_assoc, Nat.one_mul]
    constructor <;> intro h <;> omega

end HalfEven

namespace Binary64

/-- The power of two that a ratio is rounded to a multiple of: the ratio has at most 53 binary
digits above it, and fewer only at the least power. -/
theorem bounds_of_scale {units den scale : Nat} (positive : 0 < den)
    (h : scale = (units / den).log2 - 52) :
    units < 2 ^ 53 * (den * 2 ^ scale) ∧ (scale = 0 ∨ 2 ^ 52 * (den * 2 ^ scale) ≤ units) := by
  constructor
  · have quotient : units / den < 2 ^ (scale + 53) :=
      Nat.lt_of_lt_of_le Nat.lt_log2_self (Nat.pow_le_pow_right (by decide) (by omega))
    have product := (Nat.div_lt_iff_lt_mul positive).1 quotient
    have same : 2 ^ (scale + 53) * den = 2 ^ 53 * (den * 2 ^ scale) := by ring
    rwa [same] at product
  · by_cases least : scale = 0
    · exact .inl least
    · have nonzero : units / den ≠ 0 := by
        intro zero
        rw [zero, Nat.log2_zero] at h
        exact least h
      have exponent : (units / den).log2 = scale + 52 := by omega
      have quotient := Nat.log2_self_le nonzero
      rw [exponent] at quotient
      have product := (Nat.le_div_iff_mul_le positive).1 quotient
      have same : 2 ^ (scale + 52) * den = 2 ^ 52 * (den * 2 ^ scale) := by ring
      rw [same] at product
      exact .inr product

/-- The double nearest to `± units / den` in units of `2 ^ -1074`. -/
def ofUnits? (negative : Bool) (units den : Nat) : Option Binary64 :=
  let scale := (units / den).log2 - 52
  let rounded := halfEven units (den * Nat.pow 2 scale)
  let (significand, scale) :=
    if rounded = 2 * leastFull then (leastFull, scale + 1) else (rounded, scale)
  if h : Canonical significand scale then
    some ⟨negative, significand, scale, h⟩
  else none

theorem ofRatio?_eq_ofUnits? (negative : Bool) (num den : Nat) :
    ofRatio? negative num den = ofUnits? negative (num * unit) den := rfl

/-- Rounding fails only where the power of two is too great. -/
theorem ofUnits?_eq_none_iff_scale (negative : Bool) {units den scale : Nat} (positive : 0 < den)
    (h : scale = (units / den).log2 - 52) : ofUnits? negative units den = none ↔
      2046 ≤ scale ∨ scale = 2045 ∧ halfEven units (den * 2 ^ scale) = 2 * leastFull := by
  obtain ⟨below, above⟩ := bounds_of_scale positive h
  have step : 0 < den * 2 ^ scale := Nat.mul_pos positive (Nat.two_pow_pos scale)
  have atMost : halfEven units (den * 2 ^ scale) ≤ 2 * leastFull := halfEven_le below
  have atLeast : scale = 0 ∨ leastFull ≤ halfEven units (den * 2 ^ scale) :=
    above.imp_right (le_halfEven step)
  have someBits : 0 < leastFull := by decide
  simp only [ofUnits?, ← h, Nat.pow_eq]
  split <;> simp only [dite_eq_right_iff, reduceCtorEq, imp_false, Canonical] <;> omega

/-- A ratio overflows from halfway between the greatest finite double and the power of two on. -/
theorem ofUnits?_eq_none_iff (negative : Bool) {units den : Nat} (positive : 0 < den) :
    ofUnits? negative units den = none ↔ (2 ^ 54 - 1) * (den * 2 ^ 2044) ≤ units := by
  obtain ⟨scale, h⟩ : ∃ scale, scale = (units / den).log2 - 52 := ⟨_, rfl⟩
  obtain ⟨below, above⟩ := bounds_of_scale positive h
  rw [ofUnits?_eq_none_iff_scale negative positive h]
  have someUnits : 0 < den * 2 ^ 2044 := Nat.mul_pos positive (pow_pos two_pos _)
  rcases Nat.lt_trichotomy scale 2045 with small | rfl | great
  · -- All multiples of a smaller power are below the half.
    have power : den * 2 ^ scale ≤ den * 2 ^ 2044 :=
      Nat.mul_le_mul_left den (pow_le_pow_right₀ one_le_two (by omega))
    generalize den * 2 ^ 2044 = half at *
    constructor <;> intro <;> omega
  · have double : den * 2 ^ 2045 = 2 * (den * 2 ^ 2044) := by
      rw [pow_succ' 2 2044, Nat.mul_left_comm]
    have full : 2 * leastFull = 2 ^ 53 := by decide
    have even : (2 ^ 53) % 2 = 0 := by decide
    rw [full, halfEven_eq_iff even below, double]
    generalize den * 2 ^ 2044 = half at *
    constructor
    · rintro (tooGreat | ⟨-, half⟩) <;> omega
    · exact fun half => .inr ⟨rfl, by omega⟩
  · have power : 4 * (den * 2 ^ 2044) ≤ den * 2 ^ scale := by
      have more : 2 ^ 2 * 2 ^ 2044 ≤ 2 ^ scale := by
        rw [← pow_add]
        exact pow_le_pow_right₀ one_le_two great
      calc 4 * (den * 2 ^ 2044) = den * (2 ^ 2 * 2 ^ 2044) := Nat.mul_left_comm 4 den _
        _ ≤ den * 2 ^ scale := Nat.mul_le_mul_left den more
    generalize den * 2 ^ 2044 = half at *
    constructor <;> intro <;> omega

/-- Halfway between the greatest finite double and the power of two above it. -/
def overflow : ℚ := 2 ^ 1024 - 2 ^ 970

theorem overflow_eq : overflow = (2 ^ 54 - 1) * 2 ^ 970 := by
  rw [overflow, sub_mul, one_mul, ← pow_add]

theorem one_lt_overflow : 1 < overflow := by
  have power : (1 : ℚ) ≤ 2 ^ 970 := one_le_pow₀ (by norm_num)
  calc (1 : ℚ) < 2 ^ 54 - 1 := by norm_num
    _ ≤ (2 ^ 54 - 1) * 2 ^ 970 := le_mul_of_one_le_right (by norm_num) power
    _ = overflow := overflow_eq.symm

theorem unit_eq : unit = 2 ^ 1074 := by
  decide +kernel

theorem unit_pos : 0 < unit := by
  rw [unit_eq]
  exact pow_pos two_pos _

theorem ofRatio?_eq_none_iff (negative : Bool) {num den : Nat} (positive : 0 < den) :
    ofRatio? negative num den = none ↔ overflow ≤ (num : ℚ) / den := by
  have split : (2 ^ 54 - 1) * (den * 2 ^ 2044) = (2 ^ 54 - 1) * (den * 2 ^ 970) * unit := by
    rw [unit_eq, Nat.mul_assoc, Nat.mul_assoc den, ← pow_add]
  have value : overflow * den = (((2 ^ 54 - 1) * (den * 2 ^ 970) : ℕ) : ℚ) := by
    have factor : ((2 ^ 54 - 1 : ℕ) : ℚ) = 2 ^ 54 - 1 := by norm_num
    rw [Nat.cast_mul, factor, Nat.cast_mul, Nat.cast_pow, Nat.cast_ofNat, overflow_eq, mul_assoc,
      mul_comm (den : ℚ)]
  rw [ofRatio?_eq_ofUnits?, ofUnits?_eq_none_iff negative positive, split,
    Nat.mul_le_mul_right_iff unit_pos, le_div_iff₀ (by exact_mod_cast positive), value,
    Nat.cast_le]

theorem lt_ten_pow_log2 (n : Nat) : (n : ℚ) < 10 ^ ((n.log2 : ℤ) + 1) := by
  have binary : (n : ℚ) < 2 ^ (n.log2 + 1) := by exact_mod_cast Nat.lt_log2_self (n := n)
  have decimal : (2 : ℚ) ^ (n.log2 + 1) ≤ 10 ^ (n.log2 + 1) :=
    pow_le_pow_left₀ (by norm_num) (by norm_num) _
  exact_mod_cast binary.trans_le decimal

theorem ratio_eq_zpow (digits : Nat) (exponent : Int) :
    ((digits * 10 ^ exponent.toNat : ℕ) : ℚ) / (10 ^ (-exponent).toNat : ℕ) =
      digits * 10 ^ exponent := by
  obtain ⟨n, rfl | rfl⟩ := Int.eq_nat_or_neg exponent
  · simp
  · simp [div_eq_mul_inv]

/-- A decimal, with any number of digits and any exponent, is rounded to a double exactly when it
does not overflow. -/
theorem ofDecimal?_eq_none_iff (negative : Bool) (digits : Nat) (exponent : Int) :
    ofDecimal? negative digits exponent = none ↔ overflow ≤ digits * 10 ^ exponent := by
  have power : (0 : ℚ) < 10 ^ exponent := zpow_pos (by norm_num) _
  unfold ofDecimal?
  split
  · rename_i tiny
    simp only [reduceCtorEq, false_iff, not_le]
    refine lt_trans ?_ one_lt_overflow
    rcases tiny with rfl | tiny
    · simp
    · calc (digits : ℚ) * 10 ^ exponent
          < 10 ^ ((digits.log2 : ℤ) + 1) * 10 ^ exponent :=
            mul_lt_mul_of_pos_right (lt_ten_pow_log2 digits) power
        _ = 10 ^ ((digits.log2 : ℤ) + 1 + exponent) := (zpow_add₀ (by norm_num) _ _).symm
        _ ≤ 1 := zpow_le_one_of_nonpos₀ (by norm_num) (by omega)
  · rename_i someDigits
    split
    · rename_i huge
      have positive : (1 : ℚ) ≤ digits := by
        have nonzero : digits ≠ 0 := fun zero => someDigits (.inl zero)
        exact_mod_cast Nat.one_le_iff_ne_zero.2 nonzero
      have beyond : overflow ≤ 10 ^ exponent := by
        calc overflow ≤ 2 ^ 1024 := sub_le_self _ (by positivity)
          _ ≤ 2 ^ (3 * 400) := pow_le_pow_right₀ one_le_two (by norm_num)
          _ = (2 ^ 3) ^ 400 := pow_mul 2 3 400
          _ ≤ 10 ^ 400 := pow_le_pow_left₀ (by norm_num) (by norm_num) _
          _ = 10 ^ (400 : ℤ) := (zpow_natCast 10 400).symm
          _ ≤ 10 ^ exponent := zpow_le_zpow_right₀ (by norm_num) huge.le
      exact iff_of_true rfl (beyond.trans (le_mul_of_one_le_left power.le positive))
    · have positive : 0 < 10 ^ (-exponent).toNat := Nat.pow_pos (by decide)
      rw [← ratio_eq_zpow, ← ofRatio?_eq_none_iff negative positive]
      rfl

end Binary64
end ResourceLoom.Decimal
