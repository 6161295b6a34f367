/-! # The ranges of 64-bit integers

Bounds by name: signed integers reach from `-signedBound` to below `signedBound`, unsigned ones to
below `wordBound`.
-/
namespace ResourceLoom.Decimal

/-- The 63rd power of two. -/
def signedBound : Nat := 9223372036854775808

/-- The 64th power of two. -/
def wordBound : Nat := 18446744073709551616

def inInt64 (n : Int) : Bool := -signedBound ≤ n && n < signedBound

/-- Whether 128 bits hold an integer, signed or unsigned. -/
def fits128 (n : Int) : Bool := -(signedBound * wordBound) ≤ n && n < wordBound * wordBound

/-- An integer limited to the signed range. -/
def saturate (n : Int) : Int64 := .ofInt (max (-signedBound) (min n (signedBound - 1)))

end ResourceLoom.Decimal
