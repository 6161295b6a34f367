import ResourceLoom.Decimal.Numeral

/-! # Pieces of a format template

A template is literal characters and directives. A directive is a percent sign, the longest run of
flags, the longest run of digits as its width, optionally a point with the longest run of digits as
its precision, and one character as its verb. The template may end before the verb.
-/
namespace ResourceLoom.Template

/-- The greatest width and precision that a directive may ask for. -/
def limit : Nat := 1000000

def isFlag (c : Char) : Bool := c == '-' || c == '+' || c == '#' || c == '0' || c == ' '

structure Directive where
  flags : List Char
  width : Option Nat
  precision : Option Nat
deriving DecidableEq, Repr

inductive Piece where
  | literal (c : Char)
  | directive (d : Directive) (verb : Char)
  | cutOff (d : Directive)
deriving DecidableEq, Repr

namespace Directive

def minus (d : Directive) : Bool := '-' ∈ d.flags
def plus (d : Directive) : Bool := '+' ∈ d.flags
def sharp (d : Directive) : Bool := '#' ∈ d.flags
def zero (d : Directive) : Bool := '0' ∈ d.flags
def space (d : Directive) : Bool := ' ' ∈ d.flags

/-- The width, unless it is beyond the limit. -/
def width? (d : Directive) : Option Nat := d.width.filter (· ≤ limit)

/-- The precision, unless it is beyond the limit. -/
def precision? (d : Directive) : Option Nat := d.precision.filter (· ≤ limit)

/-- What the output says of a width or a precision beyond the limit. -/
def warnings (d : Directive) : List Char :=
  (if d.width?.isSome = d.width.isSome then [] else "%!(BADWIDTH)".toList) ++
    (if d.precision?.isSome = d.precision.isSome then [] else "%!(BADPREC)".toList)

/-- The precision that a text begins with, if it begins with a point, and the text behind it. -/
def takePrecision : List Char → Option Nat × List Char
  | '.' :: rest =>
    (some (Decimal.ofDigits (rest.takeWhile Char.isDigit)), rest.dropWhile Char.isDigit)
  | rest => (none, rest)

/-- The directive that a text behind a percent sign begins with, and the text from its verb on. -/
def parse (cs : List Char) : Directive × List Char :=
  let rest := cs.dropWhile isFlag
  let (precision, after) := takePrecision (rest.dropWhile Char.isDigit)
  (⟨cs.takeWhile isFlag, Decimal.natural? (rest.takeWhile Char.isDigit), precision⟩, after)

theorem length_takePrecision_le (cs : List Char) : (takePrecision cs).2.length ≤ cs.length := by
  fun_cases takePrecision cs with
  | case1 rest =>
    have := (List.dropWhile_suffix Char.isDigit (l := rest)).length_le
    simp only [List.length_cons]
    omega
  | case2 => simp

theorem length_parse_le (cs : List Char) : (parse cs).2.length ≤ cs.length := by
  have flags := (List.dropWhile_suffix isFlag (l := cs)).length_le
  have width := (List.dropWhile_suffix Char.isDigit (l := cs.dropWhile isFlag)).length_le
  have precision := length_takePrecision_le ((cs.dropWhile isFlag).dropWhile Char.isDigit)
  exact Nat.le_trans precision (Nat.le_trans width flags)

end Directive

/-- The pieces of a template, from left to right. -/
def pieces : List Char → List Piece
  | [] => []
  | c :: rest =>
    if c = '%' then
      match _after : (Directive.parse rest).2 with
      | [] => [.cutOff (Directive.parse rest).1]
      | verb :: more => .directive (Directive.parse rest).1 verb :: pieces more
    else .literal c :: pieces rest
termination_by cs => cs.length
decreasing_by
  · have := Directive.length_parse_le rest
    rw [_after, List.length_cons] at this
    simp only [List.length_cons]
    omega
  · simp

end ResourceLoom.Template
