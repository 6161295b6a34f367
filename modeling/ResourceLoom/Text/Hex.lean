/-! # Hexadecimal digits

Numbers, bytes and character codes in base sixteen. Reading takes digits of either case.
-/
namespace ResourceLoom.Text

def hexDigits (n : Nat) : List Char := Nat.toDigits 16 n

def upperHexDigits (n : Nat) : List Char := (hexDigits n).map Char.toUpper

/-- Two digits of the given kind for each byte. -/
def hexBytes (digits : Nat → List Char) (bytes : List UInt8) : List Char :=
  bytes.flatMap fun b =>
    let tail := digits b.toNat
    List.replicate (2 - tail.length) '0' ++ tail

/-- The bytes of the UTF-8 form. -/
def utf8Bytes (s : String) : List UInt8 := s.toUTF8.toList

def hexValue? (c : Char) : Option Nat :=
  if c.isDigit then some (c.toNat - '0'.toNat)
  else if 'a' ≤ c ∧ c ≤ 'f' then some (c.toNat - 'a'.toNat + 10)
  else if 'A' ≤ c ∧ c ≤ 'F' then some (c.toNat - 'A'.toNat + 10)
  else none

/-- The number that digits write. -/
def hexNumber? (digits : List Char) : Option Nat :=
  (digits.mapM hexValue?).map fun values => values.foldl (16 * · + ·) 0

/-- The character whose code digits write. -/
def hexChar? (digits : List Char) : Option Char := do
  let n ← hexNumber? digits
  if h : n.isValidChar then some (Char.ofNatAux n h) else none

end ResourceLoom.Text
