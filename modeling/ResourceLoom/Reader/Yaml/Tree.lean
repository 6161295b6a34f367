import ResourceLoom.Reader.Yaml.Plain
import ResourceLoom.Reader.Yaml.Token

/-! # Nodes of YAML tokens

Where a node may be left out, nothing stands for it. A sequence that is the value of a key may be
indented as far as its key, and then has no marks around it. A key of a flow list makes a mapping of
one entry.
-/
namespace ResourceLoom.Yaml

/-- The text of a scalar that stands as a key. -/
def keyText? : Node → Option String
  | .plain s _ => some s
  | .whole (.string s) => some s
  | _ => none

def scalarNode (text : String) (isPlain : Bool) : Node :=
  if isPlain then plain text else .whole (.string text)

/-- Whether the next token is one of some that leave out a node. -/
def leavesOut (marks : List Token) : List Token → Bool
  | [] => true
  | token :: _ => token ∈ marks

mutual
/-- A node at the head of the tokens. In block context it may be a block collection, and as a value
it may be a sequence without marks. -/
def node? (block asValue : Bool) : (fuel : Nat) → List Token → Option (Node × List Token)
  | 0, _ => none
  | fuel + 1, tokens =>
    match tokens with
    | .scalar text isPlain :: rest => some (scalarNode text isPlain, rest)
    | .flowSequence :: rest => (flowItems? fuel true rest).map fun (items, rest) =>
      (.list .yaml items, rest)
    | .flowMapping :: rest => (flowEntries? fuel true rest).map fun (entries, rest) =>
      (.ofEntries .yaml entries, rest)
    | .blockSequence :: rest =>
      if block then (blockItems? fuel rest).map fun (items, rest) => (.list .yaml items, rest)
      else none
    | .blockMapping :: rest =>
      if block then
        (blockEntries? fuel rest).map fun (entries, rest) => (.ofEntries .yaml entries, rest)
      else none
    | .item :: _ =>
      if asValue then (looseItems? fuel tokens).map fun (items, rest) => (.list .yaml items, rest)
      else none
    | _ => none

/-- A node, or nothing before certain tokens. -/
def nodeBefore? (block asValue : Bool) (marks : List Token) :
    (fuel : Nat) → List Token → Option (Node × List Token)
  | 0, _ => none
  | fuel + 1, tokens =>
    if leavesOut marks tokens then some (absent, tokens) else node? block asValue fuel tokens

/-- The items of a block sequence up to its end. -/
def blockItems? : (fuel : Nat) → List Token → Option (List Node × List Token)
  | 0, _ => none
  | fuel + 1, tokens =>
    match tokens with
    | .item :: rest => do
      let (item, rest) ← nodeBefore? true false [.item, .blockEnd] fuel rest
      let (items, rest) ← blockItems? fuel rest
      return (item :: items, rest)
    | .blockEnd :: rest => some ([], rest)
    | _ => none

/-- The items of a sequence without marks around it. -/
def looseItems? : (fuel : Nat) → List Token → Option (List Node × List Token)
  | 0, _ => none
  | fuel + 1, tokens =>
    match tokens with
    | .item :: rest => do
      let (item, rest) ← nodeBefore? true false [.item, .key, .value, .blockEnd] fuel rest
      let (items, rest) ← looseItems? fuel rest
      return (item :: items, rest)
    | rest => some ([], rest)

/-- The entries of a block mapping up to its end. -/
def blockEntries? : (fuel : Nat) → List Token → Option (List (Option String × Node) × List Token)
  | 0, _ => none
  | fuel + 1, tokens =>
    match tokens with
    | .key :: rest => do
      let (key, rest) ← nodeBefore? true true [.key, .value, .blockEnd] fuel rest
      let (value, rest) ← match rest with
        | .value :: rest => nodeBefore? true true [.key, .value, .blockEnd] fuel rest
        | rest => some (absent, rest)
      let (entries, rest) ← blockEntries? fuel rest
      return ((keyText? key, value) :: entries, rest)
    | .blockEnd :: rest => some ([], rest)
    | _ => none

/-- The items of a flow list up to its end, behind the first one each with a comma before it. -/
def flowItems? : (fuel : Nat) → (first : Bool) → List Token → Option (List Node × List Token)
  | 0, _, _ => none
  | fuel + 1, first, tokens =>
    match first, tokens with
    | _, .flowSequenceEnd :: rest => some ([], rest)
    | false, .comma :: .flowSequenceEnd :: rest => some ([], rest)
    | false, .comma :: rest => flowItem? fuel rest
    | true, rest => flowItem? fuel rest
    | false, _ => none

/-- An item of a flow list with those behind it. -/
def flowItem? : (fuel : Nat) → List Token → Option (List Node × List Token)
  | 0, _ => none
  | fuel + 1, tokens => do
    let (item, rest) ← match tokens with
      | .key :: rest => flowPair? fuel rest
      | tokens => node? false false fuel tokens
    let (items, rest) ← flowItems? fuel false rest
    return (item :: items, rest)

/-- The mapping of one entry that a key of a flow list makes. -/
def flowPair? : (fuel : Nat) → List Token → Option (Node × List Token)
  | 0, _ => none
  | fuel + 1, tokens => do
    let (key, rest) ←
      if leavesOut [.value, .comma, .flowSequenceEnd] tokens then some (absent, tokens.drop 1)
      else node? false false fuel tokens
    let (value, rest) ← match rest with
      | .value :: rest => nodeBefore? false false [.comma, .flowSequenceEnd] fuel rest
      | rest => some (absent, rest)
    return (.ofEntries .yaml [(keyText? key, value)], rest)

/-- The entries of a flow mapping up to its end, behind the first one each with a comma
before it. -/
def flowEntries? :
    (fuel : Nat) → (first : Bool) → List Token → Option (List (Option String × Node) × List Token)
  | 0, _, _ => none
  | fuel + 1, first, tokens =>
    match first, tokens with
    | _, .flowMappingEnd :: rest => some ([], rest)
    | false, .comma :: .flowMappingEnd :: rest => some ([], rest)
    | false, .comma :: rest => flowEntry? fuel rest
    | true, rest => flowEntry? fuel rest
    | false, _ => none

/-- An entry of a flow mapping with those behind it; without a mark of a key it has no value. -/
def flowEntry? : (fuel : Nat) → List Token → Option (List (Option String × Node) × List Token)
  | 0, _ => none
  | fuel + 1, tokens => do
    let (key, value, rest) ← match tokens with
      | .key :: rest => do
        let (key, rest) ← nodeBefore? false false [.value, .comma, .flowMappingEnd] fuel rest
        match rest with
        | .value :: rest => do
          let (value, rest) ← nodeBefore? false false [.comma, .flowMappingEnd] fuel rest
          some (key, value, rest)
        | rest => some (key, absent, rest)
      | tokens => (node? false false fuel tokens).map fun (key, rest) => (key, absent, rest)
    let (entries, rest) ← flowEntries? fuel false rest
    return ((keyText? key, value) :: entries, rest)
end

/-- The one document of all the tokens; markers of its end may follow. -/
def document? (tokens : List Token) : Option Node := do
  let fuel := 4 * tokens.length + 4
  let (node, rest) ← match tokens with
    | [] => some (absent, [])
    | .documentStart :: rest => nodeBefore? true false [.documentStart, .documentEnd] fuel rest
    | tokens => node? true false fuel tokens
  if rest.all (· == .documentEnd) then some node else none

end ResourceLoom.Yaml
