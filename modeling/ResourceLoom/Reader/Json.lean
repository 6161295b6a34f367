import ResourceLoom.Decimal.Numeral
import ResourceLoom.Text.Hex
import ResourceLoom.Wire.Node

/-! # Reading JSON

One value with blanks around it. Keys of an object may repeat here. An integer outside both 64-bit
ranges is read as a double, as is everything with a fraction or an exponent and the negative zero.
Numbers beyond the doubles and strings with half a surrogate pair are well formed, but no value.
-/
namespace ResourceLoom.Json

def isBlank (c : Char) : Bool := c == ' ' || c == '\t' || c == '\n' || c == '\r'

def skipBlanks (cs : List Char) : List Char := cs.dropWhile isBlank

def isHighUnit (n : Nat) : Bool := 0xD800 ≤ n && n < 0xDC00

def isLowUnit (n : Nat) : Bool := 0xDC00 ≤ n && n < 0xE000

/-- The character of a pair of surrogate units. -/
def pair (high low : Nat) : Char := .ofNat (0x10000 + 0x400 * (high - 0xD800) + (low - 0xDC00))

def simpleEscape? (c : Char) : Option Char :=
  match c with
  | '"' => some '"'
  | '\\' => some '\\'
  | '/' => some '/'
  | 'b' => some '\x08'
  | 'f' => some '\x0c'
  | 'n' => some '\n'
  | 'r' => some '\r'
  | 't' => some '\t'
  | _ => none

/-- What has been read of a string, unless it ends in half a pair. -/
def whole (soFar : Option (List Char)) (high : Option Nat) : Option (List Char) :=
  if high.isSome then none else soFar

/-- The rest of a string after its opening quote, and what follows it. What has been read is held in
reverse, with the high surrogate unit at its end that still wants a low one. There is no text when a
surrogate unit stands alone. -/
def string? (soFar : Option (List Char)) (high : Option Nat) :
    List Char → Option (Option String × List Char)
  | [] => none
  | '"' :: rest => some ((whole soFar high).map fun cs => .ofList cs.reverse, rest)
  | '\\' :: 'u' :: a :: b :: c :: d :: rest =>
    match Text.hexNumber? [a, b, c, d], high with
    | none, _ => none
    | some n, some high =>
      if isLowUnit n then string? (soFar.map (pair high n :: ·)) none rest
      else string? none none rest
    | some n, none =>
      if isHighUnit n then string? soFar (some n) rest
      else if isLowUnit n then string? none none rest
      else string? (soFar.map (Char.ofNat n :: ·)) none rest
  | '\\' :: c :: rest =>
    match simpleEscape? c with
    | some char => string? ((whole soFar high).map (char :: ·)) none rest
    | none => none
  | c :: rest =>
    if c.toNat < 0x20 ∨ c = '\\' then none
    else string? ((whole soFar high).map (c :: ·)) none rest

def isNumeric (c : Char) : Bool := c.isDigit || c ∈ ['-', '+', '.', 'e', 'E']

/-- The digits of a fraction, of which there is at least one, and what follows them. -/
def fraction? : List Char → Option (List Char × List Char)
  | '.' :: rest =>
    let figures := rest.takeWhile Char.isDigit
    if figures = [] then none else some (figures, rest.dropWhile Char.isDigit)
  | rest => some ([], rest)

/-- An integer of a document, or a double when it is none. -/
def integer? (negative : Bool) (magnitude : Nat) : Option Number :=
  let exact := if negative ∧ magnitude = 0 then none
    else Number.ofInt? (if negative then -magnitude else magnitude)
  exact <|> (Decimal.Binary64.ofDecimal? negative magnitude 0).map .float

/-- An unsigned number, without a needless leading zero. The inner option is empty when the number
is beyond the doubles. -/
def unsigned? (negative : Bool) (cs : List Char) : Option (Option Number) := do
  let whole := cs.takeWhile Char.isDigit
  let rest := cs.dropWhile Char.isDigit
  if whole = [] ∨ (whole.head? = some '0' ∧ whole ≠ ['0']) then none
  else if rest = [] then return integer? negative (Decimal.ofDigits whole)
  else
    let (fraction, rest) ← fraction? rest
    let exponent ← Decimal.exponent? rest
    let digits := Decimal.ofDigits (whole ++ fraction)
    return (Decimal.Binary64.ofDecimal? negative digits (exponent - fraction.length)).map .float

def number? : List Char → Option (Option Number)
  | '-' :: rest => unsigned? true rest
  | cs => unsigned? false cs

/-- The node of a scalar, when it has a value. -/
def scalar {α : Type} (make : α → Document) : Option α → Node
  | some a => .whole (make a)
  | none => .undecodable

mutual
/-- A value at the head of a text. -/
def value? : (fuel : Nat) → List Char → Option (Node × List Char)
  | 0, _ => none
  | fuel + 1, cs =>
    match skipBlanks cs with
    | 'n' :: 'u' :: 'l' :: 'l' :: rest => some (.whole .null, rest)
    | 't' :: 'r' :: 'u' :: 'e' :: rest => some (.whole (.bool true), rest)
    | 'f' :: 'a' :: 'l' :: 's' :: 'e' :: rest => some (.whole (.bool false), rest)
    | '"' :: rest => (string? (some []) none rest).map fun (s, rest) => (scalar .string s, rest)
    | '[' :: rest =>
      match skipBlanks rest with
      | ']' :: rest => some (.list .json [], rest)
      | rest => (items? fuel rest).map fun (items, rest) => (.list .json items, rest)
    | '\x7b' :: rest =>
      match skipBlanks rest with
      | '\x7d' :: rest => some (.table .json [], rest)
      | rest => (members? fuel rest).map fun (entries, rest) => (.ofEntries .json entries, rest)
    | rest =>
      (number? (rest.takeWhile isNumeric)).map fun n =>
        (scalar .number n, rest.dropWhile isNumeric)

/-- Values up to the closing bracket of a list. -/
def items? : (fuel : Nat) → List Char → Option (List Node × List Char)
  | 0, _ => none
  | fuel + 1, cs => do
    let (item, rest) ← value? fuel cs
    match skipBlanks rest with
    | ']' :: rest => return ([item], rest)
    | ',' :: rest =>
      let (items, rest) ← items? fuel rest
      return (item :: items, rest)
    | _ => none

/-- Keys with their values up to the closing brace of an object. -/
def members? : (fuel : Nat) → List Char → Option (List (Option String × Node) × List Char)
  | 0, _ => none
  | fuel + 1, cs =>
    match skipBlanks cs with
    | '"' :: rest => do
      let (key, rest) ← string? (some []) none rest
      match skipBlanks rest with
      | ':' :: rest =>
        let (value, rest) ← value? fuel rest
        match skipBlanks rest with
        | '\x7d' :: rest => return ([(key, value)], rest)
        | ',' :: rest =>
          let (entries, rest) ← members? fuel rest
          return ((key, value) :: entries, rest)
        | _ => none
      | _ => none
    | _ => none
end

/-- How deep documents may be nested to be decoded. -/
def depthLimit : Nat := 127

def read? (text : String) : Option Node := do
  let cs := text.toList
  let (node, rest) ← value? (2 * cs.length + 1) cs
  if skipBlanks rest = [] then some node else none

end ResourceLoom.Json
