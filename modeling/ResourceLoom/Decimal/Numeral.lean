import ResourceLoom.Decimal.Figures
import ResourceLoom.Decimal.Range

/-! # Numbers written in text

The grammars of whole numbers and of doubles, and the fault that each refused text shows. A double's
text may be well formed and still name no finite number.
-/
namespace ResourceLoom.Decimal

/-- The value of a digit string; digits are ASCII. -/
def ofDigits (cs : List Char) : Nat :=
  cs.foldl (fun n c => 10 * n + (c.toNat - '0'.toNat)) 0

/-- The value of a text that is one or more digits and nothing else. -/
def natural? (cs : List Char) : Option Nat :=
  if cs ≠ [] ∧ cs.all Char.isDigit then some (ofDigits cs) else none

/-- The value of a text that is an optional plus sign and digits, within 64 bits. -/
def word? (cs : List Char) : Option UInt64 := do
  let n ← natural? (match cs with | '+' :: rest => rest | all => all)
  if n < wordBound then some (.ofNat n) else none

inductive IntegerFault | empty | invalidDigit | tooLarge | tooSmall
deriving DecidableEq, Repr

def IntegerFault.message : IntegerFault → String
  | .empty => "cannot parse integer from empty string"
  | .invalidDigit => "invalid digit found in string"
  | .tooLarge => "number too large to fit in target type"
  | .tooSmall => "number too small to fit in target type"

/-- The digits after the sign. What stands before the first other character is judged first: it may
already be out of range. -/
def signedDigits (negative : Bool) (cs : List Char) : Except IntegerFault Int64 :=
  let magnitude : Int := ofDigits (cs.takeWhile Char.isDigit)
  let value := if negative then -magnitude else magnitude
  if inInt64 value then
    if natural? cs = none then .error .invalidDigit else .ok (.ofInt value)
  else .error (if negative then .tooSmall else .tooLarge)

/-- A signed 64-bit integer: an optional sign and digits. -/
def readInteger (s : String) : Except IntegerFault Int64 :=
  match s.toList with
  | [] => .error .empty
  | '-' :: rest => signedDigits true rest
  | '+' :: rest => signedDigits false rest
  | all => signedDigits false all

inductive FloatFault | empty | invalid
deriving DecidableEq, Repr

def FloatFault.message : FloatFault → String
  | .empty => "cannot parse float from empty string"
  | .invalid => "invalid float literal"

/-- The exponent after the digits: nothing, or an `e`, an optional sign and digits. -/
def exponent? : List Char → Option Int
  | [] => some 0
  | e :: rest =>
    if e = 'e' ∨ e = 'E' then
      match rest with
      | '-' :: ds => (natural? ds).map fun n => -(n : Int)
      | '+' :: ds => (natural? ds).map fun n => (n : Int)
      | ds => (natural? ds).map fun n => (n : Int)
    else none

/-- Digits with at most one point among or around them, as all the digits and the count of those
after the point, with what follows. -/
def pointed (cs : List Char) : List Char × Nat × List Char :=
  let whole := cs.takeWhile Char.isDigit
  match cs.dropWhile Char.isDigit with
  | '.' :: rest =>
    let fraction := rest.takeWhile Char.isDigit
    (whole ++ fraction, fraction.length, rest.dropWhile Char.isDigit)
  | rest => (whole, 0, rest)

/-- An unsigned double: a name of infinity or of no number in any case, or digits with a point and
an exponent. The inner option is empty when the text names no finite number. -/
def unsignedFloat? (negative : Bool) (cs : List Char) : Option (Option Binary64) :=
  let name := cs.map Char.toLower
  if name = "inf".toList ∨ name = "infinity".toList ∨ name = "nan".toList then some none
  else
    let (figures, places, rest) := pointed cs
    if figures = [] then none
    else (exponent? rest).map fun e => Binary64.ofDecimal? negative (ofDigits figures) (e - places)

/-- A double, with an optional sign. -/
def readFloat (s : String) : Except FloatFault (Option Binary64) :=
  let read := match s.toList with
    | '-' :: rest => unsignedFloat? true rest
    | '+' :: rest => unsignedFloat? false rest
    | all => unsignedFloat? false all
  if s.isEmpty then .error .empty
  else match read with
    | some value => .ok value
    | none => .error .invalid

end ResourceLoom.Decimal
