/-! # Written forms of documents -/
namespace ResourceLoom

inductive Format | json | yaml | toml
deriving DecidableEq, Repr

end ResourceLoom
