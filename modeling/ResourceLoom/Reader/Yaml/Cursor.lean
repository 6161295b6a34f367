/-! # Places in a YAML text

The text from a place on, with the line and the column of the place. A text has its line breaks as
line feeds, beside the separators of lines and of paragraphs, which are kept inside scalars.
-/
namespace ResourceLoom.Yaml

def isBlank (c : Char) : Bool := c == ' ' || c == '\t'

def isBreak (c : Char) : Bool := c == '\n' || c == '\u2028' || c == '\u2029'

/-- Whether a word ends here. -/
def atGap : List Char → Bool
  | [] => true
  | c :: _ => isBlank c || isBreak c

/-- The characters that a text may consist of. -/
def isAllowed (c : Char) : Bool :=
  let n := c.toNat
  n == 0x09 || n == 0x0A || n == 0x0D || (0x20 ≤ n && n ≤ 0x7E) || n == 0x85 ||
    (0xA0 ≤ n && n ≤ 0xD7FF) || (0xE000 ≤ n && n ≤ 0xFFFD) || 0x10000 ≤ n

/-- The text with carriage returns and next-line characters as line feeds. -/
def withFeeds : List Char → List Char
  | '\r' :: '\n' :: rest => '\n' :: withFeeds rest
  | '\r' :: rest => '\n' :: withFeeds rest
  | '\u0085' :: rest => '\n' :: withFeeds rest
  | c :: rest => c :: withFeeds rest
  | [] => []

structure Cursor where
  rest : List Char
  line : Nat
  column : Nat

namespace Cursor

/-- The place so many characters further on in the line. -/
def skip (cursor : Cursor) (count : Nat) : Cursor :=
  { cursor with rest := cursor.rest.drop count, column := cursor.column + count }

/-- Whether three of a character make up a marker between documents here. -/
def atMarker (cursor : Cursor) (mark : Char) : Bool :=
  cursor.column == 0 && cursor.rest.take 3 == [mark, mark, mark] && atGap (cursor.rest.drop 3)

def atBoundary (cursor : Cursor) : Bool := cursor.atMarker '-' || cursor.atMarker '.'

end Cursor

/-- The mark of the byte order, which may begin a line and takes up a column there. -/
def isOrderMark (c : Char) : Bool := c == '\uFEFF'

/-- The next place behind blanks, line breaks and comments, and whether a key may begin there. In
block context a line break allows a key, and where a key may begin a tab is no blank. -/
def skipGap (flow inComment keyAllowed : Bool) (line column : Nat) : List Char → Bool × Cursor
  | [] => (keyAllowed, ⟨[], line, column⟩)
  | c :: rest =>
    if isBreak c then skipGap flow false (keyAllowed || !flow) (line + 1) 0 rest
    else if inComment ∨ c = ' ' ∨ (c = '\t' ∧ (flow ∨ !keyAllowed)) ∨
        (column = 0 ∧ isOrderMark c) then
      skipGap flow inComment keyAllowed line (column + 1) rest
    else if c = '#' then skipGap flow true keyAllowed line (column + 1) rest
    else (keyAllowed, ⟨c :: rest, line, column⟩)

end ResourceLoom.Yaml
