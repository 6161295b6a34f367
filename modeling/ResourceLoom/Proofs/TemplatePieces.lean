import ResourceLoom.Proofs.LongestRuns
import ResourceLoom.Proofs.Numerals
import ResourceLoom.Template.Directive

/-! # The pieces of a template

How a directive is written, and what a template is made of. Each text behind a percent sign begins
with one directive, whose runs of flags and digits go as far as they can, and each template is made
of one list of pieces, which is the list that formatting goes through.
-/
namespace ResourceLoom.Template

namespace Directive

/-- The directive that a text begins with, and the rest of the text from its verb on. -/
inductive Spells : Directive → (text rest : List Char) → Prop where
  | plain {flags digits rest : List Char} (flagRun : LongestRun isFlag flags (digits ++ rest))
      (widthRun : LongestRun Char.isDigit digits rest) (pointless : ∀ more, rest ≠ '.' :: more) :
      Spells ⟨flags, Decimal.value? digits, none⟩ (flags ++ (digits ++ rest)) rest
  | precise {flags digits figures rest : List Char}
      (flagRun : LongestRun isFlag flags (digits ++ '.' :: (figures ++ rest)))
      (widthRun : LongestRun Char.isDigit digits ('.' :: (figures ++ rest)))
      (precisionRun : LongestRun Char.isDigit figures rest) :
      Spells ⟨flags, Decimal.value? digits, some (Nat.ofDigitChars 10 figures 0)⟩
        (flags ++ (digits ++ '.' :: (figures ++ rest))) rest

variable {d : Directive} {text rest : List Char}

theorem takePrecision_of_pointless (pointless : ∀ more, rest ≠ '.' :: more) :
    takePrecision rest = (none, rest) := by
  unfold takePrecision
  split
  · next more => exact absurd rfl (pointless more)
  · rfl

theorem takePrecision_point {figures : List Char} (run : LongestRun Char.isDigit figures rest) :
    takePrecision ('.' :: (figures ++ rest)) = (some (Nat.ofDigitChars 10 figures 0), rest) := by
  rw [takePrecision, run.takeWhile_append, run.dropWhile_append]
  rfl

theorem parse_of_runs {flags digits after : List Char}
    (flagRun : LongestRun isFlag flags (digits ++ after))
    (widthRun : LongestRun Char.isDigit digits after) :
    parse (flags ++ (digits ++ after)) =
      (⟨flags, Decimal.value? digits, (takePrecision after).1⟩, (takePrecision after).2) := by
  simp only [parse, flagRun.takeWhile_append, flagRun.dropWhile_append, widthRun.takeWhile_append,
    widthRun.dropWhile_append, Decimal.natural?_of_digits widthRun.all]

theorem parse_of_spells (h : d.Spells text rest) : parse text = (d, rest) := by
  cases h with
  | plain flagRun widthRun pointless =>
    rw [parse_of_runs flagRun widthRun, takePrecision_of_pointless pointless]
  | precise flagRun widthRun precisionRun =>
    rw [parse_of_runs flagRun widthRun, takePrecision_point precisionRun]

theorem exists_spells (text : List Char) : ∃ d rest, Spells d text rest := by
  obtain ⟨flags, behind, rfl, flagRun⟩ := LongestRun.exists_split isFlag text
  obtain ⟨digits, after, rfl, widthRun⟩ := LongestRun.exists_split Char.isDigit behind
  by_cases pointed : ∃ more, after = '.' :: more
  · obtain ⟨more, rfl⟩ := pointed
    obtain ⟨figures, rest, rfl, precisionRun⟩ := LongestRun.exists_split Char.isDigit more
    exact ⟨_, rest, .precise flagRun widthRun precisionRun⟩
  · exact ⟨_, after, .plain flagRun widthRun fun more same => pointed ⟨more, same⟩⟩

/-- Reading the text behind a percent sign finds the directive that it begins with. -/
theorem spells_parse (text : List Char) : Spells (parse text).1 text (parse text).2 := by
  obtain ⟨d, rest, spelled⟩ := exists_spells text
  rw [parse_of_spells spelled]
  exact spelled

end Directive

/-- The pieces that a template is made of: characters that stand for themselves, and directives. -/
inductive Decomposes : List Char → List Piece → Prop where
  | done : Decomposes [] []
  | literal {c : Char} {rest : List Char} {pieces : List Piece} (plain : c ≠ '%')
      (further : Decomposes rest pieces) : Decomposes (c :: rest) (.literal c :: pieces)
  | directive {d : Directive} {verb : Char} {text rest : List Char} {pieces : List Piece}
      (spelled : d.Spells text (verb :: rest)) (further : Decomposes rest pieces) :
      Decomposes ('%' :: text) (.directive d verb :: pieces)
  | cutOff {d : Directive} {text : List Char} (spelled : d.Spells text []) :
      Decomposes ('%' :: text) [.cutOff d]

section Pieces

variable {d : Directive} {verb c : Char} {text rest : List Char}

theorem pieces_nil : pieces [] = [] := by
  rw [pieces]

theorem pieces_literal (plain : c ≠ '%') : pieces (c :: rest) = .literal c :: pieces rest := by
  rw [pieces, if_neg plain]

theorem pieces_cutOff (h : Directive.parse text = (d, [])) :
    pieces ('%' :: text) = [.cutOff d] := by
  rw [pieces, if_pos rfl]
  split
  · rw [h]
  · next after => rw [h] at after; cases after

theorem pieces_directive (h : Directive.parse text = (d, verb :: rest)) :
    pieces ('%' :: text) = .directive d verb :: pieces rest := by
  rw [pieces, if_pos rfl]
  split
  · next after => rw [h] at after; cases after
  · next after =>
    rw [h] at after ⊢
    cases after
    rfl

end Pieces

theorem pieces_of_decomposes {text : List Char} {ps : List Piece} (h : Decomposes text ps) :
    pieces text = ps := by
  induction h with
  | done => exact pieces_nil
  | literal plain _ ih => rw [pieces_literal plain, ih]
  | directive spelled _ ih => rw [pieces_directive (Directive.parse_of_spells spelled), ih]
  | cutOff spelled => exact pieces_cutOff (Directive.parse_of_spells spelled)

theorem decomposes_pieces (text : List Char) : Decomposes text (pieces text) := by
  fun_induction pieces text with
  | case1 => exact .done
  | case2 text after =>
    have spelled := Directive.spells_parse text
    rw [after] at spelled
    exact .cutOff spelled
  | case3 text verb more after ih =>
    have spelled := Directive.spells_parse text
    rw [after] at spelled
    exact .directive spelled ih
  | case4 c rest plain ih => exact .literal plain ih

/-- A template is made of one list of pieces only. -/
theorem decomposes_iff {text : List Char} {ps : List Piece} :
    Decomposes text ps ↔ ps = pieces text := by
  constructor
  · intro h
    exact (pieces_of_decomposes h).symm
  · rintro rfl
    exact decomposes_pieces text

end ResourceLoom.Template
