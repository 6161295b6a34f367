import ResourceLoom.Decimal.Binary64

/-! # Decimal figures of a double

`Figures` are the digits of a positive decimal and the power of ten of the first one. `shortest`
finds the fewest figures that read back as the same double, `rounded` a given number of them, and
`fixed` the whole text with a given number of decimal places. All three compute with exact natural
numbers on the ratio `magnitude / unit`.
-/
namespace ResourceLoom.Decimal

/-- The decimal digits of a natural number. -/
def digits (n : Nat) : List Char := Nat.toDigits 10 n

structure Figures where
  digits : List Char
  exponent : Int
deriving DecidableEq, Repr

/-- The power of ten of the first significant digit of `num / den`, for a positive ratio. -/
def leadingExponent (num den : Nat) : Int :=
  if den ≤ num then (digits (num / den)).length - 1
  else -((digits ((den + num - 1) / num - 1)).length : Int)

/-- `num / den` in units of `10 ^ exponent`, as a ratio. -/
def scaled (num den : Nat) (exponent : Int) : Nat × Nat :=
  (num * Nat.pow 10 (-exponent).toNat, den * Nat.pow 10 exponent.toNat)

/-- Which of two equally near decimals a shortest form takes. -/
inductive Tie | up | even
deriving DecidableEq, Repr

namespace Binary64

/-- Whether `count · 10 ^ exponent` reads back as `x`: it lies between the midpoints to the two
neighbours of `x`, and may be one of them when the significand of `x` is even. -/
def readsBack (x : Binary64) (count : Nat) (exponent : Int) : Bool :=
  let quarters := 4 * x.magnitude
  let step := Nat.pow 2 x.scale
  let below := if x.significand = leastFull ∧ 0 < x.scale then step else 2 * step
  let (num, den) := (count * Nat.pow 10 exponent.toNat * (4 * unit), Nat.pow 10 (-exponent).toNat)
  let (low, high) := ((quarters - below) * den, (quarters + 2 * step) * den)
  if x.significand % 2 = 0 then low ≤ num && num ≤ high else low < num && num < high

/-- The decimal with `count` figures that is nearest to `x` among those that read back as `x`. -/
def nearestWith (tie : Tie) (x : Binary64) (lead : Int) (count : Nat) : Option (Nat × Int) :=
  let exponent := lead - count + 1
  let (num, den) := scaled x.magnitude unit exponent
  let low := num / den
  let up : Bool := match compare (2 * (num % den)) den with
    | .lt => false
    | .gt => true
    | .eq => tie == .up || low % 2 == 1
  match readsBack x low exponent, readsBack x (low + 1) exponent with
  | true, true => some (low + up.toNat, exponent)
  | true, false => some (low, exponent)
  | false, true => some (low + 1, exponent)
  | false, false => none

/-- The fewest figures that read back as `x`; of those, the nearest to `x`. -/
def shortest (tie : Tie) (x : Binary64) : Figures :=
  if x.isZero then ⟨['0'], 0⟩
  else
    let lead := leadingExponent x.magnitude unit
    match ((List.range 17).map (· + 1)).findSome? (nearestWith tie x lead) with
    | none => ⟨['0'], 0⟩
    | some (coefficient, exponent) =>
      let all := digits coefficient
      let kept := (all.reverse.dropWhile (· == '0')).reverse
      ⟨kept, exponent + all.length - 1⟩

/-- The first `count` figures of `x`, the last one rounded half to even. -/
def rounded (x : Binary64) (count : Nat) : Figures :=
  if x.isZero then ⟨List.replicate count '0', 0⟩
  else
    let lead := leadingExponent x.magnitude unit
    let (num, den) := scaled x.magnitude unit (lead - count + 1)
    let coefficient := halfEven num den
    if coefficient = Nat.pow 10 count then ⟨'1' :: List.replicate (count - 1) '0', lead + 1⟩
    else ⟨digits coefficient, lead⟩

/-- The absolute value with `places` decimals, the last one rounded half to even. -/
def fixed (x : Binary64) (places : Nat) : List Char :=
  let all := digits (halfEven (x.magnitude * Nat.pow 10 places) unit)
  let padded := List.replicate (places + 1 - all.length) '0' ++ all
  let whole := padded.take (padded.length - places)
  if places = 0 then whole else whole ++ '.' :: padded.drop (padded.length - places)

end Binary64

namespace Figures

/-- The digits with a point after the first one: `1`, `1.25`. -/
def mantissa (f : Figures) : List Char :=
  match f.digits with
  | [] => []
  | [d] => [d]
  | d :: rest => d :: '.' :: rest

/-- Positional notation without an exponent, and without a point when the number is whole. -/
def positional (f : Figures) : List Char :=
  let count : Int := f.digits.length
  if f.exponent < 0 then
    '0' :: '.' :: (List.replicate (-f.exponent - 1).toNat '0' ++ f.digits)
  else if count ≤ f.exponent + 1 then
    f.digits ++ List.replicate (f.exponent + 1 - count).toNat '0'
  else
    let whole := (f.exponent + 1).toNat
    f.digits.take whole ++ '.' :: f.digits.drop whole

end Figures
end ResourceLoom.Decimal
