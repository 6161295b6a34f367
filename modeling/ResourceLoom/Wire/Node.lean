import ResourceLoom.Document.Basic
import ResourceLoom.Document.Format

/-! # Nodes of a written document

What a text holds before it is decoded. Beside whole documents there are unquoted scalars, which are
known by their own text and by the value that it reads as, values that only a generic document may
hold, and lists and tables with the form that they are written in. Keys of a table may repeat.
-/
namespace ResourceLoom

inductive Node where
  | whole (document : Document)
  /-- An unquoted scalar; it has no reading when its number fits no number of a document. -/
  | plain (text : String) (reading : Option Document)
  /-- A value that no typed field takes. A generic document takes its reading, if it has one. -/
  | generic (reading : Option Document)
  | list (format : Format) (items : List Node)
  | table (format : Format) (entries : List (String × Node))

/-- One layer of a node. -/
inductive Layer where
  | null
  | bool (value : Bool)
  | number (value : Number)
  | text (value : String)
  | plain (text : String) (reading : Option Document)
  | generic (reading : Option Document)
  | list (format : Format) (items : List Node)
  | table (format : Format) (entries : List (String × Node))

namespace Node

instance : Inhabited Node := ⟨whole .null⟩

/-- One layer of a node; a document counts as written in JSON. -/
def layer : Node → Layer
  | whole .null => .null
  | whole (.bool b) => .bool b
  | whole (.number n) => .number n
  | whole (.string s) => .text s
  | whole (.array items) => .list .json (items.map whole)
  | whole (.object fields) => .table .json (Fields.mapValues whole fields)
  | plain text reading => .plain text reading
  | generic reading => .generic reading
  | list format items => .list format items
  | table format entries => .table format entries

/-- The unquoted scalars that stand for null. -/
def isNullWord (text : String) : Bool := text ∈ ["", "null", "Null", "NULL", "~"]

/-- What nothing can decode, though it may be passed over. -/
def undecodable : Node := generic none

/-- A table, whose keys all have to be known. -/
def ofEntries (format : Format) (entries : List (Option String × Node)) : Node :=
  match entries.mapM fun (key, node) => key.map (·, node) with
  | some entries => table format entries
  | none => undecodable

mutual
/-- The document that a node stands for; of a repeated key the last value counts. -/
def document? : Node → Option Document
  | whole document => some document
  | plain _ reading => reading
  | generic reading => reading
  | list _ items => (documents? items).map .array
  | table _ entries => (entries? entries).map .ofEntries

def documents? : List Node → Option (List Document)
  | [] => some []
  | node :: rest =>
    match document? node, documents? rest with
    | some d, some ds => some (d :: ds)
    | _, _ => none

def entries? : List (String × Node) → Option (List (String × Document))
  | [] => some []
  | (key, node) :: rest =>
    match document? node, entries? rest with
    | some d, some ds => some ((key, d) :: ds)
    | _, _ => none
end

mutual
/-- The node with room for so many lists and tables inside one another; what lies deeper cannot be
decoded. -/
def within (room : Nat) : Node → Node
  | list format items =>
    match room with
    | 0 => undecodable
    | room + 1 => list format (itemsWithin room items)
  | table format entries =>
    match room with
    | 0 => undecodable
    | room + 1 => table format (entriesWithin room entries)
  | node => node

def itemsWithin (room : Nat) : List Node → List Node
  | [] => []
  | node :: rest => within room node :: itemsWithin room rest

def entriesWithin (room : Nat) : List (String × Node) → List (String × Node)
  | [] => []
  | (key, node) :: rest => (key, within room node) :: entriesWithin room rest
end

end Node
end ResourceLoom
