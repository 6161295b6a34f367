import ResourceLoom.Document.Kind
import ResourceLoom.TextMap

/-! # Transforms

The steps that a value goes through between two documents: multiplying integers, looking strings up
in a table, formatting, converting to another kind, and combining several values into one.
-/
namespace ResourceLoom

/-- How several values become one. -/
inductive Combine where
  | string (template : String)
deriving DecidableEq, Repr

inductive Transform where
  | math (multiplier : Option Int64)
  | map (pairs : TextMap)
  | string (template : String)
  | convert (target : Kind)
  | combine (how : Combine)
deriving DecidableEq, Repr

def Combine.typeName : Combine → String
  | string _ => "string"

def Transform.typeName : Transform → String
  | math _ => "math"
  | map _ => "map"
  | string _ => "string"
  | convert _ => "convert"
  | combine _ => "combine"

end ResourceLoom
