import ResourceLoom.Text.Hex
import ResourceLoom.Text.Shown

/-! # Quoted texts

Two ways to write a text between double quotes. `quoted` is for messages: whatever could not be seen
is written by its number. `jsonString` is the string of a JSON text, where only quotes, backslashes
and control characters are escaped.
-/
namespace ResourceLoom.Text

/-- A character inside a quoted message. -/
def shownForm (c : Char) : List Char :=
  if c = '\x00' then ['\\', '0']
  else if c = '\t' then ['\\', 't']
  else if c = '\r' then ['\\', 'r']
  else if c = '\n' then ['\\', 'n']
  else if c = '"' ∨ c = '\\' then ['\\', c]
  else if isShown c then [c]
  else '\\' :: 'u' :: '\x7b' :: (hexDigits c.toNat ++ ['\x7d'])

def quoted (s : String) : String :=
  .ofList ('"' :: (s.toList.flatMap shownForm ++ ['"']))

/-- A character inside a JSON string. -/
def jsonForm (c : Char) : List Char :=
  if c = '"' ∨ c = '\\' then ['\\', c]
  else if c = '\x08' then ['\\', 'b']
  else if c = '\x0c' then ['\\', 'f']
  else if c = '\n' then ['\\', 'n']
  else if c = '\r' then ['\\', 'r']
  else if c = '\t' then ['\\', 't']
  else if c.toNat < 0x20 then
    let tail := hexDigits c.toNat
    '\\' :: 'u' :: (List.replicate (4 - tail.length) '0' ++ tail)
  else [c]

def jsonString (cs : List Char) : List Char :=
  '"' :: (cs.flatMap jsonForm ++ ['"'])

end ResourceLoom.Text
