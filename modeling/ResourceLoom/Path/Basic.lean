/-! # Field paths

A path is a list of steps into a document: the name of a field or the position in an array. Its text
joins fields by points and puts in brackets every position and every name that is empty or holds a
point or a bracket.
-/
namespace ResourceLoom

inductive Segment where
  | field (name : String)
  | index (position : UInt64)
deriving DecidableEq, Repr

abbrev Path := List Segment

/-- Points and brackets, which have a meaning outside brackets. -/
def isSeparator (c : Char) : Bool := c == '.' || c == '[' || c == ']'

namespace Segment

def needsBrackets (name : List Char) : Bool := name.isEmpty || name.any isSeparator

/-- The text of a segment at the head of a path or behind another one. -/
def form (head : Bool) : Segment → List Char
  | field name =>
    if needsBrackets name.toList then '[' :: (name.toList ++ [']'])
    else if head then name.toList
    else '.' :: name.toList
  | index position => '[' :: (Nat.toDigits 10 position.toNat ++ [']'])

end Segment

namespace Path

def form : Path → List Char
  | [] => []
  | first :: rest => first.form true ++ rest.flatMap (Segment.form false)

def display (path : Path) : String := .ofList path.form

end Path
end ResourceLoom
