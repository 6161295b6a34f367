import ResourceLoom.Reader.Yaml.Cursor
import ResourceLoom.Text.Hex

/-! # Scalars of YAML

Quoted scalars end at their quote. Unquoted ones end before a comment, a colon with a blank, a mark
of a flow value, or a line that is not indented. Between words all scalars fold line breaks: a
single one stands for a space, and more of them for all but the first.
-/
namespace ResourceLoom.Yaml

/-- What stands between two words: blanks, or line breaks with whatever blanks are around them. -/
structure Gap where
  blanks : List Char
  broken : Bool
  first : Option Char
  later : List Char

namespace Gap

def none : Gap := ⟨[], false, .none, []⟩

/-- The gap behind a line break that is escaped. -/
def escaped : Gap := ⟨[], true, .none, []⟩

/-- What a gap stands for. -/
def text (gap : Gap) : List Char :=
  if gap.broken then
    match gap.first, gap.later with
    | some '\n', [] => [' ']
    | some '\n', later => later
    | first, later => first.toList ++ later
  else gap.blanks

def addBlank (gap : Gap) (c : Char) : Gap :=
  if gap.broken then gap else { gap with blanks := gap.blanks ++ [c] }

def addBreak (gap : Gap) (c : Char) : Gap :=
  if gap.broken then { gap with later := gap.later ++ [c] }
  else ⟨[], true, some c, []⟩

end Gap

/-- The blanks and breaks up to the next word. A tab that begins a line left of the given column is
refused. -/
def gap? (indent : Nat) (gap : Gap) (line column : Nat) : List Char → Option (Gap × Cursor)
  | [] => some (gap, ⟨[], line, column⟩)
  | c :: rest =>
    if isBreak c then gap? indent (gap.addBreak c) (line + 1) 0 rest
    else if isBlank c then
      if gap.broken ∧ column < indent ∧ c = '\t' then none
      else gap? indent (gap.addBlank c) line (column + 1) rest
    else some (gap, ⟨c :: rest, line, column⟩)

def Cursor.gap? (cursor : Cursor) (indent : Nat) (gap : Gap) : Option (Gap × Cursor) :=
  Yaml.gap? indent gap cursor.line cursor.column cursor.rest

/-- The rest of a single-quoted scalar, in which two quotes are one. -/
def single? : (fuel : Nat) → (soFar : List Char) → Cursor → Option (String × Cursor)
  | 0, _, _ => none
  | fuel + 1, soFar, cursor =>
    if cursor.atBoundary then none
    else match cursor.rest with
      | [] => none
      | '\'' :: '\'' :: _ => single? fuel ('\'' :: soFar) (cursor.skip 2)
      | '\'' :: _ => some (.ofList soFar.reverse, cursor.skip 1)
      | c :: rest =>
        if atGap (c :: rest) then
          (cursor.gap? 0 .none).bind fun (gap, next) =>
            single? fuel (gap.text.reverse ++ soFar) next
        else single? fuel (c :: soFar) (cursor.skip 1)

def escape? (c : Char) : Option Char :=
  match c with
  | '0' => some '\x00'
  | 'a' => some '\x07'
  | 'b' => some '\x08'
  | 't' | '\t' => some '\t'
  | 'n' => some '\n'
  | 'v' => some '\x0b'
  | 'f' => some '\x0c'
  | 'r' => some '\r'
  | 'e' => some '\x1b'
  | ' ' => some ' '
  | '"' => some '"'
  | '/' => some '/'
  | '\\' => some '\\'
  | 'N' => some '\u0085'
  | '_' => some '\u00a0'
  | 'L' => some '\u2028'
  | 'P' => some '\u2029'
  | _ => none

/-- The number of hexadecimal digits behind an escape's letter. -/
def escapeWidth? (c : Char) : Option Nat :=
  match c with
  | 'x' => some 2
  | 'u' => some 4
  | 'U' => some 8
  | _ => none

/-- The character of an escape behind its backslash, and the length of the whole escape. -/
def escaped? (letter : Char) (rest : List Char) : Option (Char × Nat) :=
  match escapeWidth? letter with
  | some width =>
    if rest.length < width then none
    else (Text.hexChar? (rest.take width)).map fun char => (char, width + 2)
  | none => (escape? letter).map fun char => (char, 2)

/-- The rest of a double-quoted scalar. -/
def double? : (fuel : Nat) → (soFar : List Char) → Cursor → Option (String × Cursor)
  | 0, _, _ => none
  | fuel + 1, soFar, cursor =>
    if cursor.atBoundary then none
    else match cursor.rest with
      | [] => none
      | '"' :: _ => some (.ofList soFar.reverse, cursor.skip 1)
      | '\\' :: c :: rest =>
        if isBreak c then
          (gap? 0 .escaped (cursor.line + 1) 0 rest).bind fun (gap, next) =>
            double? fuel (gap.text.reverse ++ soFar) next
        else (escaped? c rest).bind fun (char, count) =>
          double? fuel (char :: soFar) (cursor.skip count)
      | c :: rest =>
        if atGap (c :: rest) then
          (cursor.gap? 0 .none).bind fun (gap, next) =>
            double? fuel (gap.text.reverse ++ soFar) next
        else double? fuel (c :: soFar) (cursor.skip 1)

def isFlowMark (c : Char) : Bool :=
  c == ',' || c == '[' || c == ']' || c == '\x7b' || c == '\x7d'

/-- Whether a word cannot go on with a text. -/
def endsWord (flow : Bool) : List Char → Bool
  | [] => true
  | c :: rest => atGap [c] || (c == ':' && atGap rest) || (flow && isFlowMark c)

/-- Whether a text is a colon where neither a key nor a value can end. -/
def isStrayColon (flow : Bool) : List Char → Bool
  | ':' :: c :: _ => flow && (isFlowMark c || c == '?')
  | _ => false

/-- A word of an unquoted scalar in reverse, and its length. -/
def word? (flow : Bool) (soFar : List Char) (count : Nat) : List Char → Option (List Char × Nat)
  | [] => some (soFar, count)
  | c :: rest =>
    if isStrayColon flow (c :: rest) then none
    else if endsWord flow (c :: rest) then some (soFar, count)
    else word? flow (c :: soFar) (count + 1) rest

/-- The words of an unquoted scalar in lines that are indented to the given column. What has been
read is given in reverse, with the gap before the next word. -/
def words? (flow : Bool) (indent : Nat) :
    (fuel : Nat) → (soFar : List Char) → Gap → Cursor → Option (List Char × Gap × Cursor)
  | 0, _, _, _ => none
  | fuel + 1, soFar, gap, cursor =>
    if cursor.atBoundary ∨ cursor.rest.head? = some '#' then some (soFar, gap, cursor)
    else (word? flow [] 0 cursor.rest).bind fun (word, count) =>
      if count = 0 then some (soFar, gap, cursor)
      else
        let soFar := word ++ gap.text.reverse ++ soFar
        let cursor := cursor.skip count
        if !atGap cursor.rest ∨ cursor.rest = [] then some (soFar, .none, cursor)
        else (cursor.gap? indent .none).bind fun (gap, next) =>
          if !flow ∧ next.column < indent then some (soFar, gap, next)
          else words? flow indent fuel soFar gap next

/-- An unquoted scalar, and whether line breaks follow it. -/
def plain? (flow : Bool) (indent : Nat) (cursor : Cursor) : Option (String × Bool × Cursor) :=
  (words? flow indent (cursor.rest.length + 1) [] .none cursor).map fun (soFar, gap, next) =>
    (.ofList soFar.reverse, gap.broken, next)

end ResourceLoom.Yaml
