import ResourceLoom.Fields

/-! # Tables of texts

Texts by key, each key once and in rising order.
-/
namespace ResourceLoom

structure TextMap where
  entries : List (String × String)
  sorted : Fields.Sorted entries
deriving DecidableEq, Repr

namespace TextMap

def empty : TextMap := ⟨[], .nil⟩

instance : Inhabited TextMap := ⟨empty⟩

/-- The table of some entries, of which the last one for a key counts. -/
def ofList (entries : List (String × String)) : TextMap :=
  ⟨Fields.ofList entries, Fields.sorted_ofList entries⟩

def find? (key : String) (map : TextMap) : Option String := Fields.find? key map.entries

def isEmpty (map : TextMap) : Bool := map.entries.isEmpty

end TextMap
end ResourceLoom
