import ResourceLoom.Decimal.Layout
import ResourceLoom.Document.Basic
import ResourceLoom.Text.Quoted

/-! # The compact text of a document

JSON without spaces. Each function appends to the text written so far.
-/
namespace ResourceLoom

def Number.compact : Number → String
  | .int n => toString n.toInt
  | .word n _ => toString n.toNat
  | .float x => x.compact

namespace Document

mutual
def appendCompact (out : String) : Document → String
  | null => out ++ "null"
  | bool b => out ++ toString b
  | number n => out ++ n.compact
  | string s => out ++ String.ofList (Text.jsonString s.toList)
  | array items => (appendItems (out.push '[') items).push ']'
  | object fields => (appendFields (out.push '\x7b') fields).push '\x7d'

def appendItems (out : String) : List Document → String
  | [] => out
  | [x] => appendCompact out x
  | x :: y :: rest => appendItems ((appendCompact out x).push ',') (y :: rest)

def appendFields (out : String) : List (String × Document) → String
  | [] => out
  | [(k, x)] => appendCompact ((out ++ String.ofList (Text.jsonString k.toList)).push ':') x
  | (k, x) :: y :: rest =>
    let written := appendCompact ((out ++ String.ofList (Text.jsonString k.toList)).push ':') x
    appendFields (written.push ',') (y :: rest)
end

def compact (document : Document) : String := appendCompact "" document

end Document
end ResourceLoom
