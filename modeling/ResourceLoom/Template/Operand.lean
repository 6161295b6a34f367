import ResourceLoom.Document.Display
import ResourceLoom.Document.Kind
import ResourceLoom.Template.Directive

/-! # Rendering one operand

The text of a value under a directive. A verb that does not fit its operand is named with the kind
and the display of the operand, without padding.
-/
namespace ResourceLoom.Template

/-- The body of a rendered operand, and whether zeros may pad it. -/
structure Body where
  text : List Char
  numeric : Bool
deriving DecidableEq, Repr

namespace Directive

def sign (d : Directive) (negative : Bool) : List Char :=
  if negative then ['-'] else if d.plus then ['+'] else if d.space then [' '] else []

/-- The text cut to the precision. -/
def cut (d : Directive) (text : List Char) : List Char :=
  match d.precision? with
  | some p => text.take p
  | none => text

/-- The base of an integer verb, and the mark of it that a sharp sign asks for. -/
def base? (verb : Char) : Option (Nat × List Char) :=
  match verb with
  | 'd' => some (10, [])
  | 'b' => some (2, ['0', 'b'])
  | 'o' => some (8, ['0'])
  | 'x' => some (16, ['0', 'x'])
  | 'X' => some (16, ['0', 'X'])
  | _ => none

def integer (d : Directive) (verb : Char) (base : Nat) (mark : List Char) (n : Int64) : List Char :=
  let figures := Nat.toDigits base n.toInt.natAbs
  d.sign (n.toInt < 0) ++ (if d.sharp then mark else []) ++
    (if verb = 'X' then figures.map Char.toUpper else figures)

def float? (d : Directive) (verb : Char) (x : Decimal.Binary64) : Option (List Char) :=
  let body := match verb with
    | 'e' => some (x.exponentForm 'e' (d.precision?.getD 6))
    | 'E' => some (x.exponentForm 'E' (d.precision?.getD 6))
    | 'f' | 'F' => some (x.fixedForm (d.precision?.getD 6))
    | 'g' => some (x.generalForm 'e' d.precision?)
    | 'G' => some (x.generalForm 'E' d.precision?)
    | _ => none
  body.map (d.sign x.negative ++ ·)

/-- The rendered operand before padding; none when the verb does not fit it. -/
def body? (d : Directive) (verb : Char) (operand : Document) : Option Body :=
  match verb, operand with
  | 'v', .number n => some ⟨(Document.number n).display.toList, true⟩
  | 'v', other => some ⟨other.display.toList, false⟩
  | 's', any => some ⟨d.cut any.display.toList, false⟩
  | 'q', .string s => some ⟨Text.jsonString s.toList, false⟩
  | 't', .bool b => some ⟨(toString b).toList, false⟩
  | 'x', .string s => some ⟨Text.hexBytes Text.hexDigits (Text.utf8Bytes s), false⟩
  | 'X', .string s => some ⟨Text.hexBytes Text.upperHexDigits (Text.utf8Bytes s), false⟩
  | verb, .number (.int n) =>
    (base? verb).map fun (base, mark) => ⟨d.integer verb base mark n, true⟩
  | verb, .number (.float x) => (d.float? verb x).map (⟨·, true⟩)
  | _, _ => none

/-- The padding of a body to the width: on the right, by zeros behind the sign, or on the left. -/
def pad (d : Directive) (body : Body) : List Char :=
  let fill := d.width?.getD 0 - body.text.length
  if fill = 0 then body.text
  else if d.minus then body.text ++ List.replicate fill ' '
  else if d.zero && body.numeric then
    match body.text with
    | c :: rest =>
      if c = '-' ∨ c = '+' ∨ c = ' ' then c :: (List.replicate fill '0' ++ rest)
      else List.replicate fill '0' ++ body.text
    | [] => List.replicate fill '0'
  else List.replicate fill ' ' ++ body.text

/-- What stands for an operand that does not fit the verb. -/
def misfit (verb : Char) (operand : Document) : List Char :=
  '%' :: '!' :: verb :: '(' :: ((match operand with
    | .null => operand.display.toList
    | other => other.kindName.toList ++ '=' :: other.display.toList) ++ [')'])

def render (d : Directive) (verb : Char) (operand : Document) : List Char :=
  match d.body? verb operand with
  | some body => d.pad body
  | none => misfit verb operand

end Directive
end ResourceLoom.Template
