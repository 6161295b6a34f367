import ResourceLoom.Decimal.Numeral
import ResourceLoom.Path.Error

/-! # Reading field paths

A path is an item followed by points with names and by items in brackets. The reader goes through
the text one character at a time; its state says what has been read since the last complete
segment. Brackets hold an array position when their content is a 64-bit number, else a field name.
-/
namespace ResourceLoom.Path

/-- What stands before the next character: nothing, a point, a name, an open bracket with its own
position, or a closed bracket. Names and contents are held in reverse. -/
inductive Reading where
  | start
  | point
  | name (soFar : List Char)
  | bracket (opened : Nat) (soFar : List Char)
  | closed
deriving DecidableEq, Repr

/-- The segment of a bracket's content. -/
def ofContent (content : List Char) : Segment :=
  match Decimal.word? content with
  | some position => .index position
  | none => .field (.ofList content)

/-- The segments from here on, or the first fault and its place. -/
def read : Reading → (position : Nat) → List Char → Except (PathFault × Nat) Path
  | .start, _, [] => .ok []
  | .point, position, [] => .error (.trailingPoint, position - 1)
  | .name soFar, _, [] => .ok [.field (.ofList soFar.reverse)]
  | .bracket opened _, _, [] => .error (.openBracket, opened)
  | .closed, _, [] => .ok []
  | .start, position, c :: rest =>
    if c = '.' then .error (.leadingPoint, position)
    else if c = '[' then read (.bracket position []) (position + 1) rest
    else if c = ']' then .error (.strayBracket, position)
    else read (.name [c]) (position + c.utf8Size) rest
  | .point, position, c :: rest =>
    if isSeparator c then .error (.missingName, position)
    else read (.name [c]) (position + c.utf8Size) rest
  | .name soFar, position, c :: rest =>
    if c = '.' then
      (Segment.field (.ofList soFar.reverse) :: ·) <$> read .point (position + 1) rest
    else if c = '[' then
      (Segment.field (.ofList soFar.reverse) :: ·) <$>
        read (.bracket position []) (position + 1) rest
    else if c = ']' then .error (.strayBracket, position)
    else read (.name (c :: soFar)) (position + c.utf8Size) rest
  | .bracket opened soFar, position, c :: rest =>
    if c = ']' then
      if soFar = [] then .error (.emptyBrackets, opened)
      else (ofContent soFar.reverse :: ·) <$> read .closed (position + 1) rest
    else read (.bracket opened (c :: soFar)) (position + c.utf8Size) rest
  | .closed, position, c :: rest =>
    if c = '.' then read .point (position + 1) rest
    else if c = '[' then read (.bracket position []) (position + 1) rest
    else .error (.afterBracket, position)

def parse (text : String) : Except PathError Path :=
  match read .start 0 text.toList with
  | .error (fault, position) => .error (.malformed text fault position)
  | .ok [] => .error .emptyPath
  | .ok path => .ok path

end ResourceLoom.Path
