import ResourceLoom.Error
import ResourceLoom.Reader.Json
import ResourceLoom.Reader.Toml
import ResourceLoom.Reader.Yaml
import ResourceLoom.Text.Blank
import ResourceLoom.Wire.Decode

/-! # Loading documents

The extension of a file name decides the format: JSON and TOML are named, and everything else is
YAML. A blank text is no document in any of them.
-/
namespace ResourceLoom

namespace Format

/-- What stands behind the last point of a file name, when anything stands before that point. -/
def extension? (name : String) : Option String :=
  let reversed := name.toList.reverse
  let extension := reversed.takeWhile (· ≠ '.')
  match reversed.drop extension.length with
  | '.' :: _ :: _ => some (.ofList extension.reverse)
  | _ => none

def ofFileName (name : String) : Format :=
  match extension? name with
  | some "json" => .json
  | some "toml" => .toml
  | _ => .yaml

/-- The node of a text in a format. -/
def read? (text : String) : Format → Option Node
  | .json => (Json.read? text).map (Node.within Json.depthLimit)
  | .yaml => (Yaml.read? text).map (Node.within Yaml.depthLimit)
  | .toml => Toml.read? text

end Format

namespace Load

variable {α : Type}

/-- The typed value that a text holds. -/
def parse (decode : Wire.Decoder α) (format : Format) (text : String) : Except LoadError α :=
  if text.toList.all Text.isBlank then .error .emptyDocument
  else match format.read? text with
    | none => .error (.unparsable format)
    | some node =>
      match decode node with
      | .ok value => .ok value
      | .error _ => .error (.unparsable format)

/-- The typed value in a file with the given name and content; without content there is no file. -/
def file (decode : Wire.Decoder α) (name : String) : Option String → Except LoadError α
  | none => .error .unreadable
  | some text => parse decode (.ofFileName name) text

/-- The value of a file, or another one in its place when it cannot be loaded. -/
def fileOr (fallback : α) (decode : Wire.Decoder α) (name : String) (content : Option String) : α :=
  match file decode name content with
  | .ok value => value
  | .error _ => fallback

end Load
end ResourceLoom
