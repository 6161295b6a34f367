import ResourceLoom.Reader.Yaml.Scalar

/-! # Tokens of YAML

The text as marks and scalars, with marks of their own for where the indentation opens and closes
block collections. Whether something is a key shows only at the colon behind it, so a place where a
key may have begun is kept in mind, one for each level of flow values, and the mark of the key is
put there later. A key lies on one line and is at most 1024 characters long.
-/
namespace ResourceLoom.Yaml

inductive Token where
  | documentStart
  | documentEnd
  | blockSequence
  | blockMapping
  | blockEnd
  | flowSequence
  | flowSequenceEnd
  | flowMapping
  | flowMappingEnd
  | item
  | comma
  | key
  | value
  | scalar (text : String) (isPlain : Bool)
deriving DecidableEq, Repr

/-- A place where a key may have begun: the number of tokens before it, and whether its column asks
for one. -/
structure KeyPlace where
  before : Nat
  line : Nat
  column : Nat
  required : Bool

/-- How far a text has been cut into tokens; these are held in reverse. `indents` are the columns of
the open block collections and `keys` the places of each level of flow values, the innermost first,
where the last one is the level of blocks. -/
structure Scanner where
  cursor : Cursor
  tokens : List Token
  count : Nat
  indents : List Nat
  keyAllowed : Bool
  keys : List (Option KeyPlace)

namespace Scanner

def start (text : List Char) : Scanner := ⟨⟨text, 0, 0⟩, [], 0, [], true, [none]⟩

def inFlow (s : Scanner) : Bool := s.keys.length > 1

/-- The column from which on lines belong to the open block collection. -/
def indent (s : Scanner) : Nat :=
  match s.indents with
  | [] => 0
  | column :: _ => column + 1

def push (s : Scanner) (token : Token) : Scanner :=
  { s with tokens := token :: s.tokens, count := s.count + 1 }

/-- Puts tokens, given in reverse, at a place before others. -/
def insert (s : Scanner) (before : Nat) (tokens : List Token) : Scanner :=
  let later := s.count - before
  { s with
    tokens := s.tokens.take later ++ tokens ++ s.tokens.drop later
    count := s.count + tokens.length }

/-- Takes in characters of the line. -/
def skip (s : Scanner) (count : Nat) : Scanner := { s with cursor := s.cursor.skip count }

/-- Forgets the places that a key can no longer lie at. -/
def dropStale (s : Scanner) : Option Scanner := do
  let stale (key : KeyPlace) : Bool :=
    key.line < s.cursor.line || key.column + 1024 < s.cursor.column
  let keys ← s.keys.mapM fun
    | some key => if stale key then if key.required then none else some none else some (some key)
    | none => some none
  return { s with keys }

/-- Forgets the place of a key on the innermost level. -/
def dropKey (s : Scanner) : Option Scanner :=
  match s.keys with
  | some key :: keys => if key.required then none else some { s with keys := none :: keys }
  | _ => some s

/-- Keeps in mind that a key may begin here. -/
def saveKey (s : Scanner) : Option Scanner :=
  if s.keyAllowed then do
    let s ← s.dropKey
    let column := s.cursor.column
    let key : KeyPlace :=
      ⟨s.count, s.cursor.line, column, !s.inFlow && s.indents.head? == some column⟩
    return { s with keys := some key :: s.keys.drop 1 }
  else some s

/-- Closes the block collections that are indented further than a column. -/
def closeTo (s : Scanner) (column : Nat) : Scanner :=
  let closed := s.indents.takeWhile (column < ·)
  if s.inFlow then s
  else { s with
    tokens := closed.map (fun _ => Token.blockEnd) ++ s.tokens
    count := s.count + closed.length
    indents := s.indents.drop closed.length }

def closeAll (s : Scanner) : Scanner :=
  if s.inFlow then s
  else { s with
    tokens := s.indents.map (fun _ => Token.blockEnd) ++ s.tokens
    count := s.count + s.indents.length
    indents := [] }

/-- Whether a block collection that begins at a column is a new one. -/
def opensAt (s : Scanner) (column : Nat) : Bool := !s.inFlow && s.indents.head?.all (· < column)

/-- Opens a block collection in the current column, unless it is open. -/
def openBlock (s : Scanner) (token : Token) : Scanner :=
  let column := s.cursor.column
  if s.opensAt column then { s.push token with indents := column :: s.indents } else s

/-- Takes in a mark of one character. -/
def mark (s : Scanner) (token : Token) (keyAllowed : Bool) : Scanner :=
  { (s.push token).skip 1 with keyAllowed }

def boundary (s : Scanner) (token : Token) : Option Scanner := do
  let s ← s.closeAll.dropKey
  return { (s.push token).skip 3 with keyAllowed := false }

def openFlow (s : Scanner) (token : Token) : Option Scanner := do
  let s ← s.saveKey
  return { s with keys := none :: s.keys }.mark token true

def closeFlow (s : Scanner) (token : Token) : Option Scanner := do
  let s ← s.dropKey
  let keys := if s.inFlow then s.keys.drop 1 else s.keys
  return { s with keys }.mark token false

def comma (s : Scanner) : Option Scanner := do
  return (← s.dropKey).mark .comma true

/-- Before a mark that in block context opens a collection where a key may begin. -/
def openWith (s : Scanner) (token : Token) : Option Scanner :=
  if s.inFlow then some s else if s.keyAllowed then some (s.openBlock token) else none

def item (s : Scanner) : Option Scanner := do
  return (← (← s.openWith .blockSequence).dropKey).mark .item true

def explicitKey (s : Scanner) : Option Scanner := do
  let s ← (← s.openWith .blockMapping).dropKey
  return s.mark .key !s.inFlow

/-- A colon: what began at the place in mind is a key, and may open a mapping there. -/
def value (s : Scanner) : Option Scanner :=
  match s.keys with
  | some key :: keys =>
    let opens := s.opensAt key.column
    let s := s.insert key.before (if opens then [.key, .blockMapping] else [.key])
    let indents := if opens then key.column :: s.indents else s.indents
    some ({ s with keys := none :: keys, indents }.mark .value false)
  | _ => do
    let s ← s.openWith .blockMapping
    return s.mark .value !s.inFlow

/-- Takes in a scalar that has been read up to a place. -/
def scalar (s : Scanner) (text : String) (isPlain keyAllowed : Bool) (next : Cursor) :
    Option Scanner := do
  let s ← s.saveKey
  return { s.push (.scalar text isPlain) with cursor := next, keyAllowed }

def quoted (s : Scanner) (read : Nat → List Char → Cursor → Option (String × Cursor)) :
    Option Scanner := do
  let (text, next) ← read (s.cursor.rest.length + 1) [] (s.cursor.skip 1)
  s.scalar text false false next

def plain (s : Scanner) : Option Scanner := do
  let (text, broken, next) ← plain? s.inFlow s.indent s.cursor
  s.scalar text true broken next

/-- Characters that have another meaning at the head of an unquoted scalar. -/
def isIndicator (c : Char) : Bool := c ∈ "-?:,[]\x7b\x7d#&*!|>'\"%@\x60".toList

/-- Whether an unquoted scalar may begin with a character before others. -/
def beginsPlain (flow : Bool) (c : Char) (rest : List Char) : Bool :=
  !isIndicator c && !isBlank c || (c == '-' && !rest.head?.any isBlank) ||
    (!flow && (c == '?' || c == ':') && !atGap rest)

/-- The next token, with the block collections that close before it. -/
def step (s : Scanner) : Option Scanner := do
  let (keyAllowed, cursor) :=
    skipGap s.inFlow false s.keyAllowed s.cursor.line s.cursor.column s.cursor.rest
  let s ← { s with keyAllowed, cursor }.dropStale
  let s := s.closeTo cursor.column
  match cursor.rest with
  | [] => s.closeAll.dropKey
  | c :: rest =>
    if cursor.atMarker '-' then s.boundary .documentStart
    else if cursor.atMarker '.' then s.boundary .documentEnd
    else match c with
      | '[' => s.openFlow .flowSequence
      | '\x7b' => s.openFlow .flowMapping
      | ']' => s.closeFlow .flowSequenceEnd
      | '\x7d' => s.closeFlow .flowMappingEnd
      | ',' => s.comma
      | '\'' => s.quoted single?
      | '"' => s.quoted double?
      | _ =>
        if c = '-' ∧ atGap rest then s.item
        else if c = '?' ∧ (s.inFlow ∨ atGap rest) then s.explicitKey
        else if c = ':' ∧ (s.inFlow ∨ atGap rest) then s.value
        else if beginsPlain s.inFlow c rest then s.plain
        else none

/-- All the tokens from here on. -/
def run : (fuel : Nat) → Scanner → Option Scanner
  | 0, _ => none
  | fuel + 1, s => do
    let s ← s.step
    if s.cursor.rest = [] then s.step else run fuel s

end Scanner

/-- The tokens of a text. -/
def tokens? (text : List Char) : Option (List Token) :=
  ((Scanner.start text).run (text.length + 1)).map (·.tokens.reverse)

end ResourceLoom.Yaml
