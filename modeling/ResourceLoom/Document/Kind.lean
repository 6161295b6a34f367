import ResourceLoom.Document.Basic

/-! # Kinds of values

Transforms know four kinds of scalar. Unsigned integers beyond the signed 64-bit range are none of
them, nor are null, arrays and objects; those still have names for messages.
-/
namespace ResourceLoom

inductive Kind | string | int | bool | float64
deriving DecidableEq, Repr

namespace Kind

def all : List Kind := [.string, .int, .bool, .float64]

def name : Kind → String
  | .string => "string"
  | .int => "int"
  | .bool => "bool"
  | .float64 => "float64"

def of? : Document → Option Kind
  | .string _ => some .string
  | .bool _ => some .bool
  | .number (.int _) => some .int
  | .number (.float _) => some .float64
  | _ => none

end Kind

namespace Document

/-- The kind of any value, as messages name it. -/
def kindName : Document → String
  | null => "null"
  | bool _ => Kind.bool.name
  | number (.int _) => Kind.int.name
  | number (.word _ _) => "uint64"
  | number (.float _) => Kind.float64.name
  | string _ => Kind.string.name
  | array _ => "array"
  | object _ => "object"

/-- The shape of any value: all numbers are alike. -/
def shapeName : Document → String
  | null => "null"
  | bool _ => "bool"
  | number _ => "number"
  | string _ => "string"
  | array _ => "array"
  | object _ => "object"

end Document
end ResourceLoom
