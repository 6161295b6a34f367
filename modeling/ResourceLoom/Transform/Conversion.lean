import ResourceLoom.Decimal.Layout
import ResourceLoom.Error

/-! # Conversion between kinds

Each ordered pair of different kinds has a conversion. A value of the target kind already is left as
it is, and a value of none of the four kinds is refused.
-/
namespace ResourceLoom.Conversion

def refuse {α : Type} (value : Document) : Except Error α :=
  .error (.ofCause (.unsupportedInputKind value.kindName))

/-- The part of a value that a conversion starts from. -/
def part {α : Type} (view : Document → Option α) (value : Document) : Except Error α :=
  match view value with
  | some a => .ok a
  | none => refuse value

def failed (input : String) (target : Kind) (fault : ConversionFault) : Except Error Document :=
  .error (.ofCause (.parseFailed input target fault))

def integerOfText (s : String) : Except Error Document :=
  match Decimal.readInteger s with
  | .ok n => .ok (.int n)
  | .error fault => failed s .int (.integer fault)

def boolOfText (s : String) : Except Error Document :=
  if s ∈ ["1", "t", "T", "true", "TRUE", "True"] then .ok (.bool true)
  else if s ∈ ["0", "f", "F", "false", "FALSE", "False"] then .ok (.bool false)
  else failed s .bool .notBool

def floatOfText (s : String) : Except Error Document :=
  match Decimal.readFloat s with
  | .ok (some x) => .ok (.float x)
  | .ok none => failed s .float64 .notFinite
  | .error fault => failed s .float64 (.float fault)

/-- The conversion of a pair of kinds, none for a kind and itself. -/
def between (source target : Kind) : Option (Document → Except Error Document) :=
  match source, target with
  | .string, .int => some fun v => part Document.asString? v >>= integerOfText
  | .string, .bool => some fun v => part Document.asString? v >>= boolOfText
  | .string, .float64 => some fun v => part Document.asString? v >>= floatOfText
  | .int, .string => some fun v => (.string <| toString ·.toInt) <$> part Document.asInt? v
  | .int, .bool => some fun v => (.bool <| · == 1) <$> part Document.asInt? v
  | .int, .float64 => some fun v => (.float <| .ofInt ·.toInt) <$> part Document.asInt? v
  | .bool, .string => some fun v => (.string <| toString ·) <$> part Document.asBool? v
  | .bool, .int => some fun v => (fun b => .int (if b then 1 else 0)) <$> part Document.asBool? v
  | .bool, .float64 => some fun v =>
    (fun b => .float (if b then .one else .zero false)) <$> part Document.asBool? v
  | .float64, .string => some fun v => (.string ·.positional) <$> part Document.asFloat? v
  | .float64, .int => some fun v =>
    (.int <| Decimal.saturate ·.truncate) <$> part Document.asFloat? v
  | .float64, .bool => some fun v => (.bool <| ·.sameValue .one) <$> part Document.asFloat? v
  | .string, .string | .int, .int | .bool, .bool | .float64, .float64 => none

/-- The value in the target kind. -/
def convert (target : Kind) (value : Document) : Except Error Document :=
  match Kind.of? value with
  | none => refuse value
  | some source =>
    if source = target then .ok value
    else match between source target with
      | some conversion => conversion value
      | none => .error (.ofCause (.unsupportedConversion source target))

end ResourceLoom.Conversion
