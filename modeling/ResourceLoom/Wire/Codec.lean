import ResourceLoom.Patch.Apply
import ResourceLoom.Wire.Decode

/-! # Typed values as documents

An encoder and a decoder together make typed values readable and writable by patches.
-/
namespace ResourceLoom.Wire

variable {α : Type}

/-- The codec of an encoder that never fails and a decoder that may. -/
def codec (encode : α → Document) (decode : Decoder α) : Codec α where
  encode value := .ok (encode value)
  decode document := (decode (.whole document)).mapError fun _ => .conversion

end ResourceLoom.Wire
