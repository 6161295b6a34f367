import ResourceLoom.Decimal.Figures

/-! # Chosen precision and general form

The absolute value of a double with a given number of decimals, with a mantissa and an exponent of
at least two digits, and in the general form, which takes the exponent only for very large and very
small values. Beyond `exactPlaces` all decimals of a double are zero.
-/
namespace ResourceLoom.Decimal.Binary64

def exactPlaces : Nat := 1100

/-- A mantissa with its exponent, marked by the given letter and always signed. -/
def withExponent (letter : Char) (mantissa : List Char) (exponent : Int) : List Char :=
  let magnitude := digits exponent.natAbs
  mantissa ++ letter :: (if exponent < 0 then '-' else '+') ::
    (List.replicate (2 - magnitude.length) '0' ++ magnitude)

/-- The value with the given number of decimals. -/
def fixedForm (x : Binary64) (places : Nat) : List Char :=
  x.fixed (min places exactPlaces) ++ List.replicate (places - exactPlaces) '0'

/-- One digit, the given number of decimals, and the exponent. -/
def exponentForm (letter : Char) (x : Binary64) (places : Nat) : List Char :=
  let figures := x.rounded (min places exactPlaces + 1)
  withExponent letter (figures.mantissa ++ List.replicate (places - exactPlaces) '0')
    figures.exponent

/-- A decimal without the zeros that end its fraction, and without a bare point. -/
def trimFraction (text : List Char) : List Char :=
  if '.' ∈ text then
    ((text.reverse.dropWhile (· == '0')).dropWhile (· == '.')).reverse
  else text

/-- The fewest figures that read back, in full for exponents from -4 to 5. -/
def generalShortest (letter : Char) (x : Binary64) : List Char :=
  let figures := x.shortest .up
  if -4 ≤ figures.exponent ∧ figures.exponent ≤ 5 then figures.positional
  else withExponent letter figures.mantissa figures.exponent

/-- At most the given number of figures, in full for exponents from -4 to below that number. -/
def generalRounded (letter : Char) (x : Binary64) (precision : Nat) : List Char :=
  let significant := max precision 1
  let figures := x.rounded (min (significant - 1) exactPlaces + 1)
  if figures.exponent < -4 ∨ (significant : Int) ≤ figures.exponent then
    withExponent letter (trimFraction figures.mantissa) figures.exponent
  else
    let places := (significant - 1 - figures.exponent).toNat
    trimFraction (x.fixed (min places exactPlaces))

def generalForm (letter : Char) (x : Binary64) : Option Nat → List Char
  | none => x.generalShortest letter
  | some precision => x.generalRounded letter precision

end ResourceLoom.Decimal.Binary64
