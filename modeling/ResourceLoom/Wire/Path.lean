import ResourceLoom.Path.Basic
import ResourceLoom.Wire.Decode

/-! # Written paths

The list of the segments: a field as its name and an array position as a number.
-/
namespace ResourceLoom.Wire

def segment : Decoder Segment := fun node =>
  match node.layer with
  | .text name => .ok (.field name)
  | .number (.int n) => if 0 ≤ n then .ok (.index n.toUInt64) else .error .mismatch
  | .number (.word n _) => .ok (.index n)
  | _ => .error .mismatch

def path : Decoder Path := list segment

def encodeSegment : Segment → Document
  | .field name => .string name
  | .index position =>
    if h : Decimal.signedBound ≤ position.toNat then .number (.word position h)
    else .int position.toInt64

def encodePath (path : Path) : Document := .array (path.map encodeSegment)

end ResourceLoom.Wire
