/-! # Blank characters

The characters of the property `White_Space`, and the trimming of a text by them.
-/
namespace ResourceLoom.Text

def isBlank (c : Char) : Bool :=
  let n := c.toNat
  (9 ≤ n && n ≤ 13) || n == 0x20 || n == 0x85 || n == 0xA0 || n == 0x1680 ||
    (0x2000 ≤ n && n ≤ 0x200A) || n == 0x2028 || n == 0x2029 || n == 0x202F || n == 0x205F ||
    n == 0x3000

/-- The text without the blanks at its two ends. -/
def trim (cs : List Char) : List Char :=
  ((cs.dropWhile isBlank).reverse.dropWhile isBlank).reverse

/-- The parts between the separators, of which there is always one more than separators. -/
def separated (separator : Char) : List Char → List (List Char)
  | [] => [[]]
  | c :: rest =>
    match separated separator rest with
    | [] => [[c]]
    | part :: parts => if c = separator then [] :: part :: parts else (c :: part) :: parts

end ResourceLoom.Text
