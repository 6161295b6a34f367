import ResourceLoom.Decimal.Numeral
import ResourceLoom.Text.Hex
import ResourceLoom.Wire.Node

/-! # Reading TOML

Statements are read one after the other and each takes effect on the document so far: a header opens
a table or adds one to an array of tables, and a pair puts a value into the open table. No key is
given twice, and no table is opened twice or reached through a value. A key has at most 80 parts,
and at most 80 arrays and inline tables lie inside one another.
-/
namespace ResourceLoom.Toml

/-- How a table came to be: on the way to another one, by its own header, or by dotted keys. -/
inductive Origin | passed | header | dotted
deriving DecidableEq, Repr

/-- What a key holds while the document is being read. -/
inductive Item where
  | value (node : Node)
  | table (origin : Origin) (entries : List (String × Item))
  | tables (last : List (String × Item)) (earlier : List Node)

abbrev Entries := List (String × Item)

inductive Statement where
  | pair (keys : List String) (value : Node)
  | header (keys : List String)
  | element (keys : List String)

mutual
def Item.node : Item → Node
  | .value node => node
  | .table _ entries => .table .toml (nodes entries)
  | .tables last earlier => .list .toml (earlier ++ [.table .toml (nodes last)])

def nodes : List (String × Item) → List (String × Node)
  | [] => []
  | (key, item) :: rest => (key, item.node) :: nodes rest
end

/-- Puts a value under dotted keys into a table. The table around the last key has to be one that
dotted keys have made, unless there is but one key; on the way to it also tables that headers have
passed, and the last ones of arrays of tables, are gone through. -/
def assign (value : Node) : List String → Entries → Option Entries
  | [], _ => none
  | [key], entries =>
    if (Fields.find? key entries).isSome then none
    else some (Fields.insert key (.value value) entries)
  | key :: next :: keys, entries =>
    let inner := assign value (next :: keys)
    let isLast := keys.isEmpty
    match Fields.find? key entries with
    | none => (inner []).map fun inner => Fields.insert key (.table .dotted inner) entries
    | some (.table origin held) =>
      if origin = .dotted ∨ (origin = .passed ∧ !isLast) then
        (inner held).map fun inner => Fields.insert key (.table origin inner) entries
      else none
    | some (.tables last earlier) =>
      if isLast then none
      else (inner last).map fun last => Fields.insert key (.tables last earlier) entries
    | some (.value _) => none

/-- Works on the table that a path of keys leads to, through the last one of an array of tables. -/
def descend (act : Entries → Option Entries) : List String → Entries → Option Entries
  | [], entries => act entries
  | key :: keys, entries =>
    match Fields.find? key entries with
    | none =>
      (descend act keys []).map fun inner => Fields.insert key (.table .passed inner) entries
    | some (.table origin inner) =>
      (descend act keys inner).map fun inner => Fields.insert key (.table origin inner) entries
    | some (.tables last earlier) =>
      (descend act keys last).map fun last => Fields.insert key (.tables last earlier) entries
    | some (.value _) => none

/-- Opens the table of a header. -/
def openTable (key : String) (entries : Entries) : Option Entries :=
  match Fields.find? key entries with
  | none => some (Fields.insert key (.table .header []) entries)
  | some (.table .passed inner) => some (Fields.insert key (.table .header inner) entries)
  | _ => none

/-- Adds a table to the array of a key. -/
def addElement (key : String) (entries : Entries) : Option Entries :=
  match Fields.find? key entries with
  | none => some (Fields.insert key (.tables [] []) entries)
  | some (.tables last earlier) =>
    some (Fields.insert key (.tables [] (earlier ++ [.table .toml (nodes last)])) entries)
  | _ => none

/-- The effect of a statement on the document and on the path of the open table. -/
def execute (state : List String × Entries) : Statement → Option (List String × Entries)
  | .pair keys value =>
    (descend (assign value keys) state.1 state.2).map fun entries => (state.1, entries)
  | .header keys => do
    let entries ← descend (openTable (← keys.getLast?)) keys.dropLast state.2
    return (keys, entries)
  | .element keys => do
    let entries ← descend (addElement (← keys.getLast?)) keys.dropLast state.2
    return (keys, entries)

def isSpace (c : Char) : Bool := c == ' ' || c == '\t'

def isBareKey (c : Char) : Bool := c.isAlphanum || c == '_' || c == '-'

def isControl (c : Char) : Bool := (c.toNat < 0x20 && c != '\t') || c.toNat == 0x7F

def skipSpaces (cs : List Char) : List Char := cs.dropWhile isSpace

/-- The text behind the line, if only blanks and a comment are left of it. -/
def endLine? (cs : List Char) : Option (List Char) :=
  let behind := match skipSpaces cs with
    | '#' :: rest => rest.dropWhile (!isControl ·)
    | rest => rest
  match behind with
  | [] => some []
  | '\n' :: rest | '\r' :: '\n' :: rest => some rest
  | _ => none

/-- The blanks, comments and line ends between the parts of an array. -/
def skipLines : (fuel : Nat) → List Char → List Char
  | 0, cs => cs
  | fuel + 1, cs =>
    match skipSpaces cs with
    | '\n' :: rest | '\r' :: '\n' :: rest => skipLines fuel rest
    | '#' :: rest => skipLines fuel (rest.dropWhile (!isControl ·))
    | rest => rest

def escape? (c : Char) : Option Char :=
  match c with
  | '"' => some '"'
  | '\\' => some '\\'
  | 'b' => some '\x08'
  | 'e' => some '\x1b'
  | 'f' => some '\x0c'
  | 'n' => some '\n'
  | 'r' => some '\r'
  | 't' => some '\t'
  | _ => none

/-- The rest of a basic string. -/
def basic? : (fuel : Nat) → (soFar : List Char) → List Char → Option (String × List Char)
  | 0, _, _ => none
  | fuel + 1, soFar, cs =>
    match cs with
    | '"' :: rest => some (.ofList soFar.reverse, rest)
    | '\\' :: c :: rest =>
      let width := if c = 'x' then 2 else if c = 'u' then 4 else if c = 'U' then 8 else 0
      if width = 0 then
        (escape? c).bind fun char => basic? fuel (char :: soFar) rest
      else if rest.length < width then none
      else (Text.hexChar? (rest.take width)).bind fun char =>
        basic? fuel (char :: soFar) (rest.drop width)
    | c :: rest => if isControl c ∨ c = '\\' then none else basic? fuel (c :: soFar) rest
    | [] => none

/-- The rest of a literal string. -/
def literal? (cs : List Char) : Option (String × List Char) :=
  let content := cs.takeWhile fun c => c ≠ '\'' && !isControl c
  match cs.drop content.length with
  | '\'' :: rest => some (.ofList content, rest)
  | _ => none

def key? (cs : List Char) : Option (String × List Char) :=
  match cs with
  | '"' :: rest => basic? (rest.length + 1) [] rest
  | '\'' :: rest => literal? rest
  | cs =>
    let name := cs.takeWhile isBareKey
    if name = [] then none else some (.ofList name, cs.dropWhile isBareKey)

/-- Parts of a key that points join. -/
def parts? : (fuel : Nat) → List Char → Option (List String × List Char)
  | 0, _ => none
  | fuel + 1, cs => do
    let (key, rest) ← key? (skipSpaces cs)
    match skipSpaces rest with
    | '.' :: rest =>
      let (keys, rest) ← parts? fuel rest
      return (key :: keys, rest)
    | rest => return ([key], rest)

/-- The greatest number of parts of a key, and of arrays and inline tables inside one another. -/
def depthLimit : Nat := 80

def keys? (fuel : Nat) (cs : List Char) : Option (List String × List Char) := do
  let (keys, rest) ← parts? fuel cs
  if keys.length ≤ depthLimit then some (keys, rest) else none

/-- Digits without the underscores that may stand between two of them. -/
def plainDigits? (isDigit : Char → Bool) : List Char → Option (List Char)
  | [] => some []
  | [c] => if isDigit c then some [c] else none
  | c :: '_' :: d :: rest =>
    if isDigit c ∧ isDigit d then (plainDigits? isDigit (d :: rest)).map (c :: ·) else none
  | c :: d :: rest =>
    if isDigit c then (plainDigits? isDigit (d :: rest)).map (c :: ·) else none

/-- The value of one or more digits in a base. -/
def based? (base : Nat) (cs : List Char) : Option Nat := do
  let isDigit (c : Char) : Bool := (Text.hexValue? c).any (· < base)
  let figures ← plainDigits? isDigit cs
  if figures = [] then none
  else some (figures.foldl (fun n c => base * n + (Text.hexValue? c).getD 0) 0)

/-- Decimal digits without a needless leading zero. -/
def decimal? (cs : List Char) : Option (List Char) := do
  let figures ← plainDigits? Char.isDigit cs
  if figures = [] ∨ (figures.head? = some '0' ∧ figures ≠ ['0']) then none else some figures

/-- The digits of a fraction, and what follows the fraction. -/
def fraction? : List Char → Option (List Char × List Char)
  | '.' :: rest => do
    let isPart (c : Char) : Bool := c.isDigit || c == '_'
    let figures ← plainDigits? Char.isDigit (rest.takeWhile isPart)
    if figures = [] then none else some (figures, rest.dropWhile isPart)
  | rest => some ([], rest)

def exponent? : List Char → Option Int
  | [] => some 0
  | e :: rest =>
    if e = 'e' ∨ e = 'E' then
      let (negative, digits) := match rest with
        | '-' :: ds => (true, ds)
        | '+' :: ds => (false, ds)
        | ds => (false, ds)
      (based? 10 digits).map fun n => if negative then -(n : Int) else n
    else none

/-- The node of an integer, which 128 bits have to hold. -/
def integer? (n : Int) : Option Node :=
  match Number.ofInt? n with
  | some number => some (.whole (.number number))
  | none => if Decimal.fits128 n then some .undecodable else none

/-- A decimal number, which has to be finite, or a name of infinity or of no number. -/
def unsigned? (negative : Bool) (cs : List Char) : Option Node := do
  let isPart (c : Char) : Bool := c.isDigit || c == '_'
  if cs = "inf".toList ∨ cs = "nan".toList then return .generic (some .null)
  let whole ← decimal? (cs.takeWhile isPart)
  match cs.dropWhile isPart with
  | [] =>
    let n : Int := Decimal.ofDigits whole
    integer? (if negative then -n else n)
  | rest =>
    let (figures, rest) ← fraction? rest
    let exponent ← exponent? rest
    let digits := Decimal.ofDigits (whole ++ figures)
    let x ← Decimal.Binary64.ofDecimal? negative digits (exponent - figures.length)
    return .whole (.float x)

/-- A value without quotes or brackets. -/
def scalar? (cs : List Char) : Option Node :=
  match cs with
  | 't' :: 'r' :: 'u' :: 'e' :: [] => some (.whole (.bool true))
  | 'f' :: 'a' :: 'l' :: 's' :: 'e' :: [] => some (.whole (.bool false))
  | '0' :: 'x' :: rest => (based? 16 rest).bind fun n => integer? n
  | '0' :: 'o' :: rest => (based? 8 rest).bind fun n => integer? n
  | '0' :: 'b' :: rest => (based? 2 rest).bind fun n => integer? n
  | '-' :: rest => unsigned? true rest
  | '+' :: rest => unsigned? false rest
  | cs => unsigned? false cs

def isScalar (c : Char) : Bool := c.isAlphanum || c == '_' || c == '-' || c == '+' || c == '.'

mutual
/-- A value with room for so many arrays and inline tables inside one another. -/
def value? : (fuel room : Nat) → List Char → Option (Node × List Char)
  | 0, _, _ => none
  | fuel + 1, room, cs =>
    match cs with
    | '"' :: rest => (basic? (rest.length + 1) [] rest).map fun (s, rest) =>
      (.whole (.string s), rest)
    | '\'' :: rest => (literal? rest).map fun (s, rest) => (.whole (.string s), rest)
    | '[' :: rest =>
      if room = 0 then none
      else (items? fuel (room - 1) (skipLines fuel rest)).map fun (items, rest) =>
        (.list .toml items, rest)
    | '\x7b' :: rest =>
      if room = 0 then none
      else (pairs? fuel (room - 1) [] (skipLines fuel rest)).map fun (entries, rest) =>
        (.table .toml (nodes entries), rest)
    | cs => (scalar? (cs.takeWhile isScalar)).map fun node => (node, cs.dropWhile isScalar)

/-- The items up to the closing bracket of an array, a comma behind the last one allowed. -/
def items? : (fuel room : Nat) → List Char → Option (List Node × List Char)
  | 0, _, _ => none
  | fuel + 1, room, cs =>
    match cs with
    | ']' :: rest => some ([], rest)
    | cs => do
      let (item, rest) ← value? fuel room cs
      match skipLines fuel rest with
      | ',' :: rest =>
        let (items, rest) ← items? fuel room (skipLines fuel rest)
        return (item :: items, rest)
      | ']' :: rest => return ([item], rest)
      | _ => none

/-- The entries up to the closing brace of an inline table, a comma behind the last one allowed. -/
def pairs? : (fuel room : Nat) → Entries → List Char → Option (Entries × List Char)
  | 0, _, _, _ => none
  | fuel + 1, room, entries, cs =>
    match cs with
    | '\x7d' :: rest => some (entries, rest)
    | cs => do
      let (keys, rest) ← keys? fuel cs
      match skipLines fuel rest with
      | '=' :: rest =>
        let (value, rest) ← value? fuel room (skipLines fuel rest)
        let entries ← assign value keys entries
        match skipLines fuel rest with
        | ',' :: rest => pairs? fuel room entries (skipLines fuel rest)
        | '\x7d' :: rest => return (entries, rest)
        | _ => none
      | _ => none
end

/-- A statement and the text behind its line. -/
def statement? (cs : List Char) : Option (Statement × List Char) := do
  let fuel := 2 * cs.length + 2
  match cs with
  | '[' :: '[' :: rest =>
    let (keys, rest) ← keys? fuel rest
    match rest with
    | ']' :: ']' :: rest => return (.element keys, ← endLine? rest)
    | _ => none
  | '[' :: rest =>
    let (keys, rest) ← keys? fuel rest
    match rest with
    | ']' :: rest => return (.header keys, ← endLine? rest)
    | _ => none
  | cs =>
    let (keys, rest) ← keys? fuel cs
    match rest with
    | '=' :: rest =>
      let (value, rest) ← value? fuel depthLimit (skipSpaces rest)
      return (.pair keys value, ← endLine? rest)
    | _ => none

def statements? : (fuel : Nat) → List Char → Option (List Statement)
  | 0, _ => none
  | fuel + 1, cs =>
    match skipLines fuel cs with
    | [] => some []
    | cs => do
      let (statement, rest) ← statement? cs
      return statement :: (← statements? fuel rest)

def read? (text : String) : Option Node := do
  let cs := match text.toList with
    | '\uFEFF' :: rest => rest
    | all => all
  let statements ← statements? (cs.length + 1) cs
  let (_, entries) ← statements.foldlM execute ([], [])
  return .table .toml (nodes entries)

end ResourceLoom.Toml
