import ResourceLoom.Decimal.General
import ResourceLoom.Document.Compact

/-! # The display of a document

The text that stands for a value inside a formatted string: strings as they are, doubles in the
general form, arrays and objects as compact JSON.
-/
namespace ResourceLoom.Document

def display : Document → String
  | null => "<nil>"
  | bool b => toString b
  | string s => s
  | number (.int n) => toString n.toInt
  | number (.word n _) => toString n.toNat
  | number (.float x) => (if x.negative then "-" else "") ++ .ofList (x.generalShortest 'e')
  | array items => (array items).compact
  | object fields => (object fields).compact

end ResourceLoom.Document
