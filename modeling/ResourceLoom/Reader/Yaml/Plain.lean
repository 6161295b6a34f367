import ResourceLoom.Decimal.Numeral
import ResourceLoom.Text.Hex
import ResourceLoom.Wire.Node

/-! # Unquoted scalars of YAML

What the text of an unquoted scalar stands for: null, a boolean, an integer, a double, or the text
itself. Digits behind a leading zero are a text. An integer too long for a document has no reading
up to 128 bits and is a double beyond.
-/
namespace ResourceLoom.Yaml

def boolWord? (s : String) : Option Bool :=
  if s ∈ ["true", "True", "TRUE"] then some true
  else if s ∈ ["false", "False", "FALSE"] then some false
  else none

/-- A sign, when there is one, and what follows it. -/
def unsigned (cs : List Char) : Bool × List Char :=
  match cs with
  | '-' :: rest => (true, rest)
  | '+' :: rest => (false, rest)
  | all => (false, all)

/-- The value of digits in the base that a text names by `0x`, `0o` or `0b`. -/
def based? (cs : List Char) : Option Nat :=
  let read (base : Nat) (digits : List Char) : Option Nat := do
    let values ← digits.mapM Text.hexValue?
    if values ≠ [] ∧ values.all (· < base) then some (values.foldl (base * · + ·) 0) else none
  match cs with
  | '0' :: 'x' :: rest => read 16 rest
  | '0' :: 'o' :: rest => read 8 rest
  | '0' :: 'b' :: rest => read 2 rest
  | _ => none

def hasLeadingZero (digits : List Char) : Bool := digits.length > 1 && digits.head? == some '0'

def integer? (cs : List Char) : Option Int :=
  let (negative, digits) := unsigned cs
  let magnitude := match based? digits with
    | some n => some n
    | none => if hasLeadingZero digits then none else Decimal.natural? digits
  magnitude.map fun n => if negative then -(n : Int) else n

def isInfinityWord (cs : List Char) : Bool :=
  String.ofList (unsigned cs).2 ∈ [".inf", ".Inf", ".INF"]

def isNoNumberWord (s : String) : Bool := s ∈ [".nan", ".NaN", ".NAN"]

/-- The double of a text, when it is finite. -/
def float? (cs : List Char) : Option Decimal.Binary64 :=
  match Decimal.readFloat (.ofList cs) with
  | .ok value => value
  | .error _ => none

/-- What a text stands for that is no integer. -/
def readingOther (s : String) : Document :=
  let cs := s.toList
  if isInfinityWord cs || isNoNumberWord s then .null
  else if hasLeadingZero (unsigned cs).2 && (unsigned cs).2.all Char.isDigit then .string s
  else match float? cs with
    | some x => .float x
    | none => .string s

/-- The value of an unquoted scalar. -/
def reading (s : String) : Option Document :=
  if Node.isNullWord s then some .null
  else match boolWord? s, integer? s.toList with
    | some b, _ => some (.bool b)
    | none, none => some (readingOther s)
    | none, some n =>
      match Number.ofInt? n with
      | some number => some (.number number)
      | none => if Decimal.fits128 n then none else some (readingOther s)

def plain (s : String) : Node := .plain s (reading s)

/-- The node of a place where nothing is written. -/
def absent : Node := plain ""

end ResourceLoom.Yaml
