import ResourceLoom.Decimal.Figures

/-! # Texts of a double

Three ways to write the fewest figures that read back: in full without an exponent, with an exponent
always, and the compact form of JSON documents, which has an exponent outside `10 ^ -5` to
`10 ^ 15` and otherwise at least one decimal.
-/
namespace ResourceLoom.Decimal.Binary64

def sign (x : Binary64) : String := if x.negative then "-" else ""

/-- The value written in full. -/
def positional (x : Binary64) : String :=
  x.sign ++ String.ofList (x.shortest .up).positional

/-- The value with an exponent, which has a sign only when negative. -/
def scientific (x : Binary64) : String :=
  let figures := x.shortest .up
  s!"{x.sign}{String.ofList figures.mantissa}e{figures.exponent}"

/-- The value in a JSON document. -/
def compact (x : Binary64) : String :=
  let figures := x.shortest .even
  let mark := if figures.exponent < 0 then "" else "+"
  if -5 ≤ figures.exponent ∧ figures.exponent ≤ 15 then
    let text := figures.positional
    x.sign ++ String.ofList (if '.' ∈ text then text else text ++ ['.', '0'])
  else s!"{x.sign}{String.ofList figures.mantissa}e{mark}{figures.exponent}"

end ResourceLoom.Decimal.Binary64
