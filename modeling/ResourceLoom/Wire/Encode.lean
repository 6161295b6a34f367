import ResourceLoom.Document.Basic
import ResourceLoom.TextMap

/-! # Encoding of typed values

Fields are written in key order. Absent values, and lists and texts that say nothing, are left out.
-/
namespace ResourceLoom.Wire

variable {α : Type}

def entry (key : String) (value : Document) : List (String × Document) := [(key, value)]

def entryOfSome (key : String) (encode : α → Document) : Option α → List (String × Document)
  | some value => [(key, encode value)]
  | none => []

/-- A field with a list, left out when it is empty. -/
def entries (key : String) (encode : α → Document) (items : List α) : List (String × Document) :=
  if items.isEmpty then [] else [(key, .array (items.map encode))]

def encodeTexts (map : TextMap) : Document :=
  .object (Fields.mapValues .string map.entries)

/-- A field with a table of texts, left out when it is empty. -/
def textEntries (key : String) (map : TextMap) : List (String × Document) :=
  if map.isEmpty then [] else [(key, encodeTexts map)]

end ResourceLoom.Wire
