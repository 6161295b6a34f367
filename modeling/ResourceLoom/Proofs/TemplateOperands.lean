import ResourceLoom.Proofs.TemplatePieces
import ResourceLoom.Template.Format

/-! # What the pieces of a template contribute

Each piece contributes on its own, and the directives that take operands take them in order. The
text of a formatted template is all these contributions, one after the other, and the operands that
are left over are listed behind them. The text of an operand is only ever output.
-/
namespace ResourceLoom.Template

/-- The number is given and greater than what a directive may ask for. -/
def OverLimit (number : Option Nat) : Prop := ∃ n ∈ number, limit < n

instance (number : Option Nat) : Decidable (OverLimit number) :=
  inferInstanceAs (Decidable (∃ n ∈ number, limit < n))

/-- What is said of the numbers of a directive. -/
def Directive.notices (d : Directive) : List Char :=
  (if OverLimit d.width then "%!(BADWIDTH)".toList else []) ++
    (if OverLimit d.precision then "%!(BADPREC)".toList else [])

namespace Piece

/-- Directives take an operand, unless their verb is the percent sign. -/
def takesOperand : Piece → Bool
  | literal _ | cutOff _ => false
  | directive _ verb => verb != '%'

/-- What a piece contributes, given the operand that it takes if there is one. -/
def contribution (operand : Option Document) : Piece → List Char
  | literal c => [c]
  | cutOff d => d.notices ++ "%!(NOVERB)".toList
  | directive d verb =>
    d.notices ++
      if verb = '%' then ['%']
      else match operand with
        | some value => d.render verb value
        | none => '%' :: '!' :: verb :: "(MISSING)".toList

end Piece

/-- The number of operands that pieces take. -/
def taken (ps : List Piece) : Nat := ps.countP Piece.takesOperand

/-- What pieces contribute. A directive takes the operand whose position is the number of those
that the pieces before it have taken. -/
def contributions (ps : List Piece) (operands : List Document) : List (List Char) :=
  ps.mapIdx fun k piece => piece.contribution operands[taken (ps.take k)]?

/-- The operands with their kinds. -/
def listing (operands : List Document) : List Char :=
  [',', ' '].intercalate (operands.map fun v => v.kindName.toList ++ '=' :: v.display.toList)

theorem isSome_filter_limit (number : Option Nat) :
    (number.filter (· ≤ limit)).isSome = number.isSome ↔ ¬ OverLimit number := by
  cases number with
  | none => simp [OverLimit]
  | some n => simp [OverLimit, Option.isSome_filter]

theorem Directive.warnings_eq_notices (d : Directive) : d.warnings = d.notices := by
  simp only [warnings, notices, width?, precision?, isSome_filter_limit, ite_not]

theorem extra_eq (operands : List Document) : extra operands =
    if operands = [] then [] else "%!(EXTRA ".toList ++ listing operands ++ [')'] := by
  cases operands with
  | nil => rfl
  | cons v rest => rw [if_neg (List.cons_ne_nil v rest)]; rfl

/-- A piece contributes with the next operand, which it takes or leaves to the others. -/
theorem fill_cons (piece : Piece) (rest : List Piece) (operands : List Document) :
    fill (piece :: rest) operands = piece.contribution operands.head? ++
      fill rest (operands.drop piece.takesOperand.toNat) := by
  cases piece with
  | literal c => rfl
  | cutOff d => rw [fill, d.warnings_eq_notices]; rfl
  | directive d verb =>
    have noted := d.warnings_eq_notices
    by_cases escaped : verb = '%'
    · simp [fill, noted, escaped, Piece.contribution, Piece.takesOperand]
    · have takes : (verb != '%') = true := bne_iff_ne.2 escaped
      cases operands with
      | nil => simp [fill, noted, escaped, Piece.contribution]
      | cons v others => simp [fill, noted, escaped, takes, Piece.contribution, Piece.takesOperand]

theorem taken_cons (piece : Piece) (rest : List Piece) :
    taken (piece :: rest) = piece.takesOperand.toNat + taken rest := by
  rw [taken, List.countP_cons, Nat.add_comm]
  cases piece.takesOperand <;> rfl

theorem contributions_cons (piece : Piece) (rest : List Piece) (operands : List Document) :
    contributions (piece :: rest) operands = piece.contribution operands.head? ::
      contributions rest (operands.drop piece.takesOperand.toNat) := by
  have first : operands[taken ((piece :: rest).take 0)]? = operands.head? :=
    List.head?_eq_getElem?.symm
  rw [contributions, List.mapIdx_cons, first]
  simp only [List.take_succ_cons, taken_cons, contributions, List.getElem?_drop]

/-- The pieces contribute one after the other, and what they leave over is named at the end. -/
theorem fill_eq (ps : List Piece) (operands : List Document) :
    fill ps operands = (contributions ps operands).flatten ++ extra (operands.drop (taken ps)) := by
  -- Behind each piece the operands go on where it has left them.
  induction ps generalizing operands with
  | nil => rfl
  | cons piece rest ih =>
    rw [fill_cons, ih, contributions_cons, List.flatten_cons, List.append_assoc, List.drop_drop,
      taken_cons]

/-- The formatted text is what the pieces of the template contribute, in order, each directive with
the operand of its own, and a list of the operands that no directive takes. -/
theorem format_accounts (template : String) (operands : List Document) :
    ∃ ps, Decomposes template.toList ps ∧
      (∀ others, Decomposes template.toList others → others = ps) ∧
      (format template operands).toList = (contributions ps operands).flatten ++
        if taken ps < operands.length then
          "%!(EXTRA ".toList ++ listing (operands.drop (taken ps)) ++ [')']
        else [] := by
  refine ⟨pieces template.toList, decomposes_pieces _, fun others => decomposes_iff.1, ?_⟩
  have none_left : operands.drop (taken (pieces template.toList)) = [] ↔
      ¬ taken (pieces template.toList) < operands.length := by
    rw [List.drop_eq_nil_iff, Nat.not_lt]
  rw [format, String.toList_ofList, fill_eq, extra_eq]
  simp only [none_left, ite_not]

/-- A width that counts, an escaped sign, an operand that is missing and a directive cut off. -/
example : (format "%5.1s%%%-d%+" [.string "ab"]).toList =
    "    a%%!d(MISSING)%!(NOVERB)".toList := by
  cbv

end ResourceLoom.Template
