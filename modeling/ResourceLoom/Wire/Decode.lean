import ResourceLoom.Error
import ResourceLoom.TextMap
import ResourceLoom.Wire.Node

/-! # Decoding of typed values

Decoders for the shapes that typed values are written in. A structure is a table of its fields or,
outside YAML, the list of their values in the order of declaration, which in TOML may be longer than
that. Fields are decoded as they come, unknown ones are passed over, a field given twice is refused,
and only then are absent fields missed.
-/
namespace ResourceLoom.Wire

inductive Fault where
  | mismatch
  /-- The value has the right shape and is refused for a reason of its own. -/
  | refused (cause : Cause)
deriving DecidableEq, Repr

abbrev Decoder (α : Type) := Node → Except Fault α

variable {α σ : Type}

def ofOption : Option α → Except Fault α
  | some a => .ok a
  | none => .error .mismatch

def text : Decoder String := fun node =>
  match node.layer with
  | .text s | .plain s _ => .ok s
  | _ => .error .mismatch

def integer : Decoder Int64 := fun node =>
  match node.layer with
  | .number (.int n) | .plain _ (some (.number (.int n))) => .ok n
  | _ => .error .mismatch

def document : Decoder Document := fun node => ofOption node.document?

def isNull (node : Node) : Bool :=
  match node.layer with
  | .null => true
  | .plain text _ => Node.isNullWord text
  | _ => false

/-- A value that null leaves out. -/
def option (decode : Decoder α) : Decoder (Option α) := fun node =>
  if isNull node then .ok none else some <$> decode node

def each (decode : Decoder α) : List Node → Except Fault (List α)
  | [] => .ok []
  | node :: rest =>
    match decode node with
    | .error e => .error e
    | .ok a => (a :: ·) <$> each decode rest

/-- A list; an empty plain scalar is the empty one. -/
def list (decode : Decoder α) : Decoder (List α) := fun node =>
  match node.layer with
  | .list _ items => each decode items
  | .plain "" _ => .ok []
  | _ => .error .mismatch

def texts : List (String × Node) → Except Fault (List (String × String))
  | [] => .ok []
  | (key, node) :: rest =>
    match text node with
    | .error e => .error e
    | .ok value => ((key, value) :: ·) <$> texts rest

/-- A table of texts, in which the last value of a key counts. -/
def textMap : Decoder TextMap := fun node =>
  match node.layer with
  | .table _ entries => TextMap.ofList <$> texts entries
  | .plain "" _ => .ok .empty
  | _ => .error .mismatch

/-- Whether a node says nothing beside a name: null in JSON, and what is empty in TOML. -/
def isNothing (format : Format) (node : Node) : Bool :=
  match format, node.layer with
  | .json, .null | .toml, .list _ [] | .toml, .table _ [] => true
  | _, _ => false

/-- One of some named values: its name, or a table that maps only the name, to nothing. -/
def oneOf (all : List α) (name : α → String) : Decoder α := fun node =>
  match node.layer with
  | .text s | .plain s _ => ofOption (all.find? (name · == s))
  | .table format [(key, value)] =>
    if isNothing format value then ofOption (all.find? (name · == key)) else .error .mismatch
  | _ => .error .mismatch

/-- A field of a structure: how its value is read into what has been decoded so far. -/
structure Field (σ : Type) where
  key : String
  needed : Bool
  read : Node → σ → Except Fault σ

/-- A field that has to be present. -/
def needed (key : String) (decode : Decoder α) (set : α → σ → σ) : Field σ :=
  ⟨key, true, fun node s => (set · s) <$> decode node⟩

/-- A field that may be absent, which leaves the value that the structure starts with. -/
def optional (key : String) (decode : Decoder α) (set : α → σ → σ) : Field σ :=
  ⟨key, false, fun node s => (set · s) <$> decode node⟩

/-- Decodes the entries of a table; `seen` are the fields met before. -/
def readTable (fields : List (Field σ)) (seen : List String) :
    List (String × Node) → σ → Except Fault σ
  | [], s => if fields.all fun f => !f.needed || f.key ∈ seen then .ok s else .error .mismatch
  | (key, node) :: rest, s =>
    match fields.find? (·.key == key) with
    | none => readTable fields seen rest s
    | some field =>
      if key ∈ seen then .error .mismatch
      else match field.read node s with
        | .error e => .error e
        | .ok next => readTable fields (key :: seen) rest next

/-- Decodes the values of the fields in their order; more values than fields may be passed over. -/
def readPositional (more : Bool) : List (Field σ) → List Node → σ → Except Fault σ
  | [], [], s => .ok s
  | [], _ :: _, s => if more then .ok s else .error .mismatch
  | fields, [], s => if fields.any (·.needed) then .error .mismatch else .ok s
  | field :: fields, node :: rest, s =>
    match field.read node s with
    | .error e => .error e
    | .ok next => readPositional more fields rest next

/-- A structure with fields in the order of declaration; an empty plain scalar has none of them. -/
def struct (blank : σ) (fields : List (Field σ)) : Decoder σ := fun node =>
  match node.layer with
  | .table _ entries => readTable fields [] entries blank
  | .plain "" _ => readTable fields [] [] blank
  | .list .json items => readPositional false fields items blank
  | .list .toml items => readPositional true fields items blank
  | _ => .error .mismatch

end ResourceLoom.Wire
