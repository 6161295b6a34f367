import ResourceLoom.Template.Operand

/-! # Formatting values into a template

The pieces of the template contribute in order, and each directive but the escaped percent sign
takes one operand. Formatting never fails: missing and left-over operands are named in the output.
-/
namespace ResourceLoom.Template

/-- What stands for operands that the template did not take. -/
def extra : List Document → List Char
  | [] => []
  | operands =>
    let shown := operands.map fun v => v.kindName.toList ++ '=' :: v.display.toList
    "%!(EXTRA ".toList ++ [',', ' '].intercalate shown ++ [')']

def fill : List Piece → List Document → List Char
  | [], operands => extra operands
  | .literal c :: rest, operands => c :: fill rest operands
  | .cutOff d :: rest, operands => d.warnings ++ "%!(NOVERB)".toList ++ fill rest operands
  | .directive d verb :: rest, operands =>
    if verb = '%' then d.warnings ++ '%' :: fill rest operands
    else match operands with
      | [] => d.warnings ++ '%' :: '!' :: verb :: ("(MISSING)".toList ++ fill rest [])
      | operand :: others => d.warnings ++ d.render verb operand ++ fill rest others

/-- The text of a template with its operands. -/
def format (template : String) (operands : List Document) : String :=
  .ofList (fill (pieces template.toList) operands)

end ResourceLoom.Template
