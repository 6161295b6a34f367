import ResourceLoom.Decimal.Binary64
import ResourceLoom.Decimal.Range
import ResourceLoom.Fields

/-! # Documents

Trees of objects and arrays over null, booleans, numbers and strings. A number is a signed 64-bit
integer, an unsigned one beyond the signed range, or a finite double. Equality of documents is
decidable.
-/
namespace ResourceLoom

open Decimal (Binary64 signedBound wordBound)

inductive Number where
  | int (value : Int64)
  | word (value : UInt64) (beyond : signedBound ≤ value.toNat)
  | float (value : Binary64)
deriving DecidableEq

inductive Document where
  | null
  | bool (value : Bool)
  | number (value : Number)
  | string (value : String)
  | array (items : List Document)
  | object (fields : List (String × Document))

namespace Number

/-- The number of an integer that fits 64 bits, signed or unsigned. -/
def ofInt? (n : Int) : Option Number :=
  if Decimal.inInt64 n then some (.int (.ofInt n))
  else if h : signedBound ≤ (UInt64.ofNat n.toNat).toNat ∧ n < wordBound then
    some (.word (.ofNat n.toNat) h.1)
  else none

def toFloat : Number → Binary64
  | .int n => .ofInt n.toInt
  | .word n _ => .ofInt n.toNat
  | .float x => x

end Number

namespace Document

instance : Inhabited Document := ⟨null⟩

def int (n : Int64) : Document := number (.int n)

def float (x : Binary64) : Document := number (.float x)

/-- The object with the given entries, a later value of a key winning. -/
def ofEntries (entries : List (String × Document)) : Document := object (Fields.ofList entries)

def asString? : Document → Option String
  | string s => some s
  | _ => none

def asBool? : Document → Option Bool
  | bool b => some b
  | _ => none

def asArray? : Document → Option (List Document)
  | array items => some items
  | _ => none

def asInt? : Document → Option Int64
  | number (.int n) => some n
  | _ => none

/-- The value of any number as a double. -/
def asFloat? : Document → Option Binary64
  | number n => some n.toFloat
  | _ => none

def isObject : Document → Bool
  | object _ => true
  | _ => false

/-- The value of a field of an object. -/
def field? (name : String) : Document → Option Document
  | object fields => Fields.find? name fields
  | _ => none

/-- The value at nested fields, from the outermost. -/
def at? (names : List String) (document : Document) : Option Document :=
  names.foldl (fun found name => found.bind (field? name)) (some document)

/-- A string field; empty when it is absent or no string. -/
def textField (name : String) (document : Document) : String :=
  ((document.field? name).bind asString?).getD ""

mutual
def decEq : (a b : Document) → Decidable (a = b)
  | null, null => isTrue rfl
  | bool a, bool b => if h : a = b then isTrue (h ▸ rfl) else isFalse fun e => h (bool.inj e)
  | number a, number b => if h : a = b then isTrue (h ▸ rfl) else isFalse fun e => h (number.inj e)
  | string a, string b => if h : a = b then isTrue (h ▸ rfl) else isFalse fun e => h (string.inj e)
  | array a, array b =>
    match decEqItems a b with
    | isTrue h => isTrue (h ▸ rfl)
    | isFalse h => isFalse fun e => h (array.inj e)
  | object a, object b =>
    match decEqFields a b with
    | isTrue h => isTrue (h ▸ rfl)
    | isFalse h => isFalse fun e => h (object.inj e)
  | null, bool _ | null, number _ | null, string _ | null, array _ | null, object _
  | bool _, null | bool _, number _ | bool _, string _ | bool _, array _ | bool _, object _
  | number _, null | number _, bool _ | number _, string _ | number _, array _ | number _, object _
  | string _, null | string _, bool _ | string _, number _ | string _, array _ | string _, object _
  | array _, null | array _, bool _ | array _, number _ | array _, string _ | array _, object _
  | object _, null | object _, bool _ | object _, number _ | object _, string _
  | object _, array _ => isFalse nofun

def decEqItems : (a b : List Document) → Decidable (a = b)
  | [], [] => isTrue rfl
  | [], _ :: _ | _ :: _, [] => isFalse nofun
  | x :: xs, y :: ys =>
    match decEq x y with
    | isFalse h => isFalse fun e => h (List.cons.inj e).1
    | isTrue h =>
      match decEqItems xs ys with
      | isFalse h' => isFalse fun e => h' (List.cons.inj e).2
      | isTrue h' => isTrue (h ▸ h' ▸ rfl)

def decEqFields : (a b : List (String × Document)) → Decidable (a = b)
  | [], [] => isTrue rfl
  | [], _ :: _ | _ :: _, [] => isFalse nofun
  | (k, x) :: xs, (l, y) :: ys =>
    if hk : k = l then
      match decEq x y with
      | isFalse h => isFalse fun e => h (Prod.mk.inj (List.cons.inj e).1).2
      | isTrue h =>
        match decEqFields xs ys with
        | isFalse h' => isFalse fun e => h' (List.cons.inj e).2
        | isTrue h' => isTrue (hk ▸ h ▸ h' ▸ rfl)
    else isFalse fun e => hk (Prod.mk.inj (List.cons.inj e).1).1
end

instance : DecidableEq Document := decEq

end Document
end ResourceLoom
