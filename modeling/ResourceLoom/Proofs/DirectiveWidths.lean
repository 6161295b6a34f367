import ResourceLoom.Proofs.TemplateOperands

/-! # Widths and precisions of directives

What a directive shows for an operand that fits its verb, said from the text of the directive. A
width within the limit pads the operand to exactly that many characters, one beyond the limit is
reported and then passed over, and a precision cuts the text that `%s` shows before it is padded.
The numbers are read from digit strings of any length.
-/
namespace ResourceLoom.Template

/-- The verb shows operands like this one. -/
inductive Fits : Char → Document → Prop where
  | value (operand : Document) : Fits 'v' operand
  | text (operand : Document) : Fits 's' operand
  | quoted (s : String) : Fits 'q' (.string s)
  | truth (b : Bool) : Fits 't' (.bool b)
  | bytes {verb : Char} (hex : verb = 'x' ∨ verb = 'X') (s : String) : Fits verb (.string s)
  | integer {verb : Char}
      (based : verb = 'd' ∨ verb = 'b' ∨ verb = 'o' ∨ verb = 'x' ∨ verb = 'X') (n : Int64) :
      Fits verb (.number (.int n))
  | float {verb : Char} (formed : verb = 'e' ∨ verb = 'E' ∨ verb = 'f' ∨ verb = 'F' ∨
      verb = 'g' ∨ verb = 'G') (x : Decimal.Binary64) : Fits verb (.number (.float x))

/-- The operand is a number that is not shown as plain text; zeros may pad it. -/
def Numeric (verb : Char) (operand : Document) : Prop := verb ≠ 's' ∧ ∃ n, operand = .number n

section Verbs

variable {verb : Char} {operand : Document} {d : Directive}

/-- An operand that fits has a body under every directive, and it is numeric for numbers only. -/
theorem exists_body_of_fits (fits : Fits verb operand) (d : Directive) :
    ∃ body, d.body? verb operand = some body ∧ (body.numeric = true ↔ Numeric verb operand) := by
  cases fits with
  | value => cases operand <;> exact ⟨_, rfl, by simp [Numeric]⟩
  | text => exact ⟨_, rfl, by simp [Numeric]⟩
  | quoted => exact ⟨_, rfl, by simp [Numeric]⟩
  | truth => exact ⟨_, rfl, by simp [Numeric]⟩
  | bytes hex =>
    rcases hex with rfl | rfl <;> exact ⟨_, rfl, by simp [Numeric]⟩
  | integer based =>
    rcases based with rfl | rfl | rfl | rfl | rfl <;> exact ⟨_, rfl, by simp [Numeric]⟩
  | float formed =>
    rcases formed with rfl | rfl | rfl | rfl | rfl | rfl <;> exact ⟨_, rfl, by simp [Numeric]⟩

theorem based_of_isSome (h : (Directive.base? verb).isSome) :
    verb = 'd' ∨ verb = 'b' ∨ verb = 'o' ∨ verb = 'x' ∨ verb = 'X' := by
  unfold Directive.base? at h
  split at h <;> simp_all

theorem formed_of_isSome {x : Decimal.Binary64} (h : (d.float? verb x).isSome) :
    verb = 'e' ∨ verb = 'E' ∨ verb = 'f' ∨ verb = 'F' ∨ verb = 'g' ∨ verb = 'G' := by
  unfold Directive.float? at h
  split at h <;> simp_all

/-- Every other operand is a misfit. -/
theorem isSome_body?_iff_fits : (d.body? verb operand).isSome ↔ Fits verb operand := by
  constructor
  · intro h
    unfold Directive.body? at h
    split at h
    case h_1 | h_2 => exact .value _
    case h_3 => exact .text _
    case h_4 => exact .quoted _
    case h_5 => exact .truth _
    case h_6 => exact .bytes (.inl rfl) _
    case h_7 => exact .bytes (.inr rfl) _
    case h_8 => exact .integer (based_of_isSome (by simpa using h)) _
    case h_9 => exact .float (formed_of_isSome (by simpa using h)) _
    case h_10 => cases h
  · intro fits
    obtain ⟨body, shown, -⟩ := exists_body_of_fits fits d
    rw [shown]
    rfl

/-- A verb that shows operands is no other part of a directive. -/
theorem verb_of_fits (fits : Fits verb operand) :
    isFlag verb = false ∧ verb.isDigit = false ∧ verb ≠ '.' ∧ verb ≠ '%' := by
  cases fits with
  | value | text | quoted | truth => decide
  | bytes hex => rcases hex with rfl | rfl <;> decide
  | integer based => rcases based with rfl | rfl | rfl | rfl | rfl <;> decide
  | float formed => rcases formed with rfl | rfl | rfl | rfl | rfl | rfl <;> decide

end Verbs

/-- The character is a sign, or the space that stands for one. -/
def IsSign (c : Char) : Prop := c = '-' ∨ c = '+' ∨ c = ' '

instance (c : Char) : Decidable (IsSign c) :=
  inferInstanceAs (Decidable (c = '-' ∨ c = '+' ∨ c = ' '))

/-- How a text is padded to a width: by spaces on the right, by zeros behind the sign, or by spaces
on the left. A text that is as long as the width stays as it is. -/
inductive Padded (flags : List Char) (numeric : Prop) (width : Nat) :
    List Char → List Char → Prop where
  | right {text : List Char} (minus : '-' ∈ flags) :
      Padded flags numeric width text (text.rightpad width ' ')
  | behindSign {c : Char} {rest : List Char} (minus : '-' ∉ flags) (zero : '0' ∈ flags)
      (number : numeric) (sign : IsSign c) :
      Padded flags numeric width (c :: rest) (c :: rest.leftpad (width - 1) '0')
  | zeros {text : List Char} (minus : '-' ∉ flags) (zero : '0' ∈ flags) (number : numeric)
      (unsigned : ∀ c ∈ text.head?, ¬ IsSign c) :
      Padded flags numeric width text (text.leftpad width '0')
  | left {text : List Char} (minus : '-' ∉ flags) (other : ¬ ('0' ∈ flags ∧ numeric)) :
      Padded flags numeric width text (text.leftpad width ' ')

theorem Padded.length {flags : List Char} {numeric : Prop} {width : Nat} {text padded : List Char}
    (h : Padded flags numeric width text padded) : padded.length = max width text.length := by
  cases h with
  | right => exact List.length_rightpad
  | behindSign =>
    simp only [List.length_cons, List.length_leftpad]
    omega
  | zeros | left => exact List.length_leftpad

namespace Directive

variable {d : Directive} {width : Nat}

theorem pad_of_unbounded (h : d.width? = none) (body : Body) : d.pad body = body.text := by
  simp [pad, h]

/-- A text that is as long as the width needs no case of its own. -/
theorem pad_of_width (h : d.width? = some width) (body : Body) :
    d.pad body =
      if '-' ∈ d.flags then body.text.rightpad width ' '
      else if '0' ∈ d.flags ∧ body.numeric = true then
        match body.text with
        | c :: rest =>
          if IsSign c then c :: rest.leftpad (width - 1) '0' else (c :: rest).leftpad width '0'
        | [] => [].leftpad width '0'
      else body.text.leftpad width ' ' := by
  obtain ⟨text, numeric⟩ := body
  have behind (c : Char) (rest : List Char) :
      width - 1 - rest.length = width - (c :: rest).length := by
    simp only [List.length_cons]
    omega
  simp only [pad, h, Option.getD_some, minus, zero, Bool.and_eq_true, decide_eq_true_eq,
    List.rightpad, List.leftpad]
  cases text with
  | nil => cases width <;> simp
  | cons c rest =>
    have sign : (c = '-' ∨ c = '+' ∨ c = ' ') ↔ IsSign c := Iff.rfl
    simp only [behind c rest, sign]
    generalize width - (c :: rest).length = fill
    cases fill <;> simp

theorem padded_pad (h : d.width? = some width) (body : Body) :
    Padded d.flags (body.numeric = true) width body.text (d.pad body) := by
  rw [pad_of_width h]
  by_cases minus : '-' ∈ d.flags
  · rw [if_pos minus]
    exact .right minus
  · rw [if_neg minus]
    by_cases zeros : '0' ∈ d.flags ∧ body.numeric = true
    · rw [if_pos zeros]
      cases text : body.text with
      | nil => exact .zeros minus zeros.1 zeros.2 nofun
      | cons c rest =>
        by_cases sign : IsSign c
        · simp only [if_pos sign]
          exact .behindSign minus zeros.1 zeros.2 sign
        · simp only [if_neg sign]
          exact .zeros minus zeros.1 zeros.2 (by simpa using sign)
    · rw [if_neg zeros]
      exact .left minus zeros

/-- Plain text is cut to a precision that counts. -/
theorem body?_text (d : Directive) (operand : Document) :
    d.body? 's' operand = some ⟨d.cut operand.display.toList, false⟩ := rfl

theorem cut_of_precision {p : Nat} (h : d.precision = some p) (text : List Char) :
    d.cut text = if p ≤ limit then text.take p else text := by
  by_cases within : p ≤ limit <;> simp [cut, precision?, h, Option.filter_some, within]

end Directive

theorem isFlag_of_isDigit {c : Char} (digit : c.isDigit = true) (nonzero : c ≠ '0') :
    isFlag c = false := by
  simp only [isFlag, Bool.or_eq_false_iff, beq_eq_false_iff_ne]
  refine ⟨⟨⟨⟨?_, ?_⟩, ?_⟩, nonzero⟩, ?_⟩ <;> rintro rfl <;> cases digit

/-- A directive in a template: flags, the digits of a width, if any, the digits of a precision behind
a point, if there is one, and the verb. A width does not begin with a zero, which would be a flag. -/
structure WrittenDirective where
  flags : List Char
  width : List Char
  precision : Option (List Char)
  verb : Char
  areFlags : ∀ c ∈ flags, isFlag c = true
  areDigits : ∀ c ∈ width, c.isDigit = true
  noZero : ∀ c ∈ width.head?, c ≠ '0'
  areFigures : ∀ figures ∈ precision, ∀ c ∈ figures, c.isDigit = true

namespace WrittenDirective

variable {w : WrittenDirective} {operand : Document} {rest : List Char}

/-- The text behind the percent sign. -/
def body (w : WrittenDirective) : List Char :=
  w.flags ++ (w.width ++ ((w.precision.elim [] ('.' :: ·)) ++ [w.verb]))

def text (w : WrittenDirective) : List Char := '%' :: w.body

def withoutWidth (w : WrittenDirective) : WrittenDirective :=
  { w with width := [], areDigits := nofun, noZero := nofun }

/-- The width in base ten. -/
def widthValue (w : WrittenDirective) : Nat := Nat.ofDigitChars 10 w.width 0

/-- The precision in base ten; a point without digits asks for zero. -/
def precisionValue? (w : WrittenDirective) : Option Nat :=
  w.precision.map fun figures => Nat.ofDigitChars 10 figures 0

/-- What is said of the precision. -/
def precisionNotice (w : WrittenDirective) : List Char :=
  if OverLimit w.precisionValue? then "%!(BADPREC)".toList else []

def directive (w : WrittenDirective) : Directive :=
  ⟨w.flags, Decimal.value? w.width, w.precisionValue?⟩

theorem longestRun_flags (w : WrittenDirective) {after : List Char}
    (stops : ∀ c ∈ after.head?, isFlag c = false) :
    LongestRun isFlag w.flags (w.width ++ after) := by
  refine ⟨w.areFlags, fun c first => ?_⟩
  cases width : w.width with
  | nil =>
    rw [width, List.nil_append] at first
    exact stops c first
  | cons d digits =>
    rw [width, List.cons_append, List.head?_cons, Option.mem_some] at first
    subst first
    have digit : d.isDigit = true := w.areDigits d (by simp [width])
    exact isFlag_of_isDigit digit (w.noZero d (by simp [width]))

theorem spells_directive (w : WrittenDirective) (fits : Fits w.verb operand) (rest : List Char) :
    w.directive.Spells (w.body ++ rest) (w.verb :: rest) := by
  obtain ⟨noFlag, noDigit, noPoint, -⟩ := verb_of_fits fits
  have atVerb {kind : Char → Bool} (other : kind w.verb = false) :
      ∀ c ∈ (w.verb :: rest).head?, kind c = false := by
    simpa using other
  cases precision : w.precision with
  | none =>
    have flagRun := w.longestRun_flags (atVerb noFlag)
    have widthRun : LongestRun Char.isDigit w.width (w.verb :: rest) := ⟨w.areDigits, atVerb noDigit⟩
    have pointless : ∀ more, w.verb :: rest ≠ '.' :: more := fun more same =>
      noPoint (List.cons.inj same).1
    simpa [directive, body, precisionValue?, precision] using
      Directive.Spells.plain flagRun widthRun pointless
  | some figures =>
    have atPoint {kind : Char → Bool} (other : kind '.' = false) :
        ∀ c ∈ ('.' :: (figures ++ w.verb :: rest)).head?, kind c = false := by
      simpa using other
    have flagRun : LongestRun isFlag w.flags (w.width ++ '.' :: (figures ++ w.verb :: rest)) :=
      w.longestRun_flags (atPoint rfl)
    have widthRun : LongestRun Char.isDigit w.width ('.' :: (figures ++ w.verb :: rest)) :=
      ⟨w.areDigits, atPoint rfl⟩
    have precisionRun : LongestRun Char.isDigit figures (w.verb :: rest) :=
      ⟨w.areFigures figures precision, atVerb noDigit⟩
    simpa [directive, body, precisionValue?, precision] using
      Directive.Spells.precise flagRun widthRun precisionRun

/-- In a template the text is one piece. -/
theorem pieces_text (w : WrittenDirective) (fits : Fits w.verb operand) (rest : List Char) :
    pieces (w.text ++ rest) = .directive w.directive w.verb :: pieces rest :=
  pieces_directive (Directive.parse_of_spells (w.spells_directive fits rest))

end WrittenDirective

/-- Wherever the text stands in a template, it is one directive, and it shows `shown` for the
operand that it takes. -/
def Shows (written : List Char) (operand : Document) (shown : List Char) : Prop :=
  ∃ piece, (∀ rest, pieces (written ++ rest) = piece :: pieces rest) ∧
    ∀ more others, fill (piece :: more) (operand :: others) = shown ++ fill more others

/-- As a template of its own, the text is formatted to what it shows. -/
theorem Shows.format_eq {written shown : List Char} {operand : Document}
    (h : Shows written operand shown) : format (.ofList written) [operand] = .ofList shown := by
  obtain ⟨piece, read, filled⟩ := h
  have alone : pieces written = [piece] := by
    simpa [pieces_nil] using read []
  rw [format, String.toList_ofList, alone, filled, fill, extra, List.append_nil]

namespace WrittenDirective

variable {w : WrittenDirective} {operand : Document} {rest : List Char}

theorem shows_body {body : Body} (w : WrittenDirective) (fits : Fits w.verb operand)
    (found : w.directive.body? w.verb operand = some body) :
    Shows w.text operand (w.directive.notices ++ w.directive.pad body) := by
  obtain ⟨-, -, -, noPercent⟩ := verb_of_fits fits
  refine ⟨_, w.pieces_text fits, fun more others => ?_⟩
  have takes : (w.verb != '%') = true := bne_iff_ne.2 noPercent
  have rendered : w.directive.render w.verb operand = w.directive.pad body := by
    rw [Directive.render, found]
  simp [fill_cons, Piece.contribution, Piece.takesOperand, noPercent, takes, rendered]

theorem width_directive (nonempty : w.width ≠ []) : w.directive.width = some w.widthValue := by
  rw [directive, Decimal.value?, if_neg nonempty, widthValue]

theorem notices_of_within (within : ¬ OverLimit w.directive.width) :
    w.directive.notices = w.precisionNotice := by
  rw [Directive.notices, if_neg within, List.nil_append]
  rfl

theorem notices_of_beyond (beyond : OverLimit w.directive.width) :
    w.directive.notices = "%!(BADWIDTH)".toList ++ w.precisionNotice := by
  rw [Directive.notices, if_pos beyond]
  rfl

/-- A directive shows what it shows without its width, padded to the width if that is within the
limit, and else behind a notice. Plain text is cut to the precision first, unless that is beyond the
limit, which has a notice of its own. -/
theorem pads_exactly (w : WrittenDirective) (fits : Fits w.verb operand) :
    ∃ shown : List Char,
      Shows w.withoutWidth.text operand (w.precisionNotice ++ shown) ∧
      (w.width ≠ [] → w.widthValue ≤ limit → ∃ padded,
        Shows w.text operand (w.precisionNotice ++ padded) ∧
          padded.length = max w.widthValue shown.length ∧
          Padded w.flags (Numeric w.verb operand) w.widthValue shown padded) ∧
      (limit < w.widthValue →
        Shows w.text operand ("%!(BADWIDTH)".toList ++ (w.precisionNotice ++ shown))) ∧
      (w.verb = 's' → ∀ p ∈ w.precisionValue?,
        shown = if p ≤ limit then operand.display.toList.take p else operand.display.toList) := by
  obtain ⟨body, found, numeric⟩ := exists_body_of_fits fits w.directive
  have written := w.shows_body fits found
  refine ⟨body.text, ?_, fun nonempty within => ?_, fun beyond => ?_, fun plain p given => ?_⟩
  · -- The body is the same without the width.
    have bare : w.withoutWidth.directive.body? w.withoutWidth.verb operand = some body := found
    have shown := w.withoutWidth.shows_body fits bare
    have absent : ¬ OverLimit w.withoutWidth.directive.width := by
      rintro ⟨n, given, -⟩
      cases given
    rwa [notices_of_within absent, Directive.pad_of_unbounded rfl] at shown
  · have bounded : w.directive.width? = some w.widthValue := by
      rw [Directive.width?, width_directive nonempty, Option.filter_some, if_pos (by simpa)]
    have padded := Directive.padded_pad bounded body
    have fitting : ¬ OverLimit w.directive.width := by
      simpa [OverLimit, width_directive nonempty] using within
    rw [notices_of_within fitting] at written
    rw [numeric] at padded
    exact ⟨_, written, padded.length, padded⟩
  · have nonempty : w.width ≠ [] := by
      intro empty
      simp [widthValue, empty] at beyond
    have unbounded : w.directive.width? = none := by
      rw [Directive.width?, width_directive nonempty, Option.filter_some, if_neg (by simpa)]
    have tooWide : OverLimit w.directive.width := by
      simpa [OverLimit, width_directive nonempty] using beyond
    rwa [notices_of_beyond tooWide, Directive.pad_of_unbounded unbounded, List.append_assoc] at written
  · rw [plain, Directive.body?_text, Option.some.injEq] at found
    rw [← found, Directive.cut_of_precision given]

/-- A signed number with zeros before its digits. -/
def signedNumber : WrittenDirective where
  flags := ['+', '0']
  width := ['8']
  precision := none
  verb := 'd'
  areFlags := by simp [isFlag]
  areDigits := by simp
  noZero := by simp
  areFigures := nofun

theorem pads_exactly_signedNumber :
    Fits 'd' (.int 42) ∧ signedNumber.width ≠ [] ∧ signedNumber.widthValue ≤ limit ∧
      ∃ shown padded, format "%+0d" [.int 42] = .ofList shown ∧
        format "%+08d" [.int 42] = .ofList padded ∧ padded.length = max 8 shown.length ∧
          Padded ['+', '0'] (Numeric 'd' (.int 42)) 8 shown padded := by
  have fits : Fits 'd' (.int 42) := .integer (by decide) 42
  have nonempty : signedNumber.width ≠ [] := by decide
  have within : signedNumber.widthValue ≤ limit := by decide
  obtain ⟨shown, bare, wide, -, -⟩ := pads_exactly signedNumber fits
  obtain ⟨padded, written, length, filled⟩ := wide nonempty within
  exact ⟨fits, nonempty, within, shown, padded, bare.format_eq, written.format_eq, length, filled⟩

example : format "%08d|%-5.1s|%99999999999999999999d" [.int (-42), .string "ab", .int 7] =
    "-0000042|a    |%!(BADWIDTH)7" := by
  cbv

end WrittenDirective

end ResourceLoom.Template
