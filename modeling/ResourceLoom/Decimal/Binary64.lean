/-! # Finite numbers of the double format

A finite double is `± significand · 2 ^ scale` units of `2 ^ -1074`, in its one normal form; the two
zeros differ in sign. Rounding to the format is to nearest with ties to even, and has no result
where the format would overflow to infinity.
-/
namespace ResourceLoom.Decimal

/-- `num / den` to the nearest natural number, a half going to the even neighbour. -/
def halfEven (num den : Nat) : Nat :=
  let floor := num / den
  let twice := 2 * (num % den)
  if twice < den then floor else if den < twice then floor + 1 else floor + floor % 2

/-- The least significand of full precision, the 52nd power of two. -/
def leastFull : Nat := 4503599627370496

/-- Whether a significand and a scale are the normal form of their product: the significand has at
most 53 binary digits, and fewer only at the least scale. -/
abbrev Canonical (significand scale : Nat) : Prop :=
  significand < 2 * leastFull ∧ scale ≤ 2045 ∧ (leastFull ≤ significand ∨ scale = 0)

structure Binary64 where
  negative : Bool
  significand : Nat
  scale : Nat
  canonical : Canonical significand scale
deriving DecidableEq

namespace Binary64

/-- All magnitudes are whole multiples of `1 / unit`. -/
def unit : Nat := Nat.pow 2 1074

/-- The absolute value in units of `2 ^ -1074`. -/
def magnitude (x : Binary64) : Nat := x.significand * Nat.pow 2 x.scale

def zero (negative : Bool) : Binary64 := ⟨negative, 0, 0, by decide⟩

def one : Binary64 := ⟨false, leastFull, 1022, by decide⟩

instance : Inhabited Binary64 := ⟨zero false⟩

def isZero (x : Binary64) : Bool := x.significand == 0

/-- Equality of values: the two zeros are equal. -/
def sameValue (x y : Binary64) : Bool :=
  x.magnitude == y.magnitude && (x.negative == y.negative || x.isZero)

/-- The double nearest to `± num / den`; none when that lies beyond the largest finite one. -/
def ofRatio? (negative : Bool) (num den : Nat) : Option Binary64 :=
  let units := num * unit
  let scale := (units / den).log2 - 52
  let rounded := halfEven units (den * Nat.pow 2 scale)
  let (significand, scale) :=
    if rounded = 2 * leastFull then (leastFull, scale + 1) else (rounded, scale)
  if h : Canonical significand scale then
    some ⟨negative, significand, scale, h⟩
  else none

/-- The double nearest to an integer of at most 64 bits, all of which are in range. -/
def ofInt (n : Int) : Binary64 := (ofRatio? (n < 0) n.natAbs 1).getD (zero false)

/-- The double nearest to `± digits · 10 ^ exponent`. Far outside the range the power of ten is not
formed: at least one unit above `10 ^ 400` overflows, and below `10 ^ -400` all is zero. -/
def ofDecimal? (negative : Bool) (digits : Nat) (exponent : Int) : Option Binary64 :=
  if digits = 0 ∨ exponent + digits.log2 + 1 < -400 then some (zero negative)
  else if 400 < exponent then none
  else ofRatio? negative (digits * Nat.pow 10 exponent.toNat) (Nat.pow 10 (-exponent).toNat)

/-- The whole part, the fraction dropped. -/
def truncate (x : Binary64) : Int :=
  let whole : Int := x.magnitude / unit
  if x.negative then -whole else whole

end Binary64
end ResourceLoom.Decimal
