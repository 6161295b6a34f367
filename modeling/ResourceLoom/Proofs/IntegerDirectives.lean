import ResourceLoom.Proofs.DirectiveWidths
import Mathlib.Data.List.DropRight
import Mathlib.Data.List.Forall2
import Mathlib.Data.Nat.Digits.Defs

/-! # Integers under directives

What an integer looks like under the verbs that write it in a base: a sign, the mark of the base
where it is asked for, and figures whose value is the magnitude. Such a text tells the integer.
Zeros that pad it to a width stand right behind the sign, though, and so before the mark: where the
mark has a letter and there are such zeros, the text is of no integer.
-/
namespace ResourceLoom.Template

/-- The verb writes integers in a base that has a mark. -/
inductive IntegerVerb : Char → Nat → List Char → Prop where
  | decimal : IntegerVerb 'd' 10 []
  | binary : IntegerVerb 'b' 2 ['0', 'b']
  | octal : IntegerVerb 'o' 8 ['0']
  | hexadecimal : IntegerVerb 'x' 16 ['0', 'x']
  | upperHexadecimal : IntegerVerb 'X' 16 ['0', 'X']

/-- The figures of a verb, in the order of their values. -/
def figuresOf (verb : Char) : List Char :=
  if verb = 'X' then "0123456789ABCDEF".toList else "0123456789abcdef".toList

/-- The character is the figure of a value below the base. -/
def IsFigure (verb : Char) (base : Nat) (c : Char) (d : Nat) : Prop :=
  d < base ∧ (figuresOf verb)[d]? = some c

/-- The characters are figures, the greatest first, and the number is their value. -/
def Figures (verb : Char) (base : Nat) (text : List Char) (m : Nat) : Prop :=
  ∃ ds, List.Forall₂ (IsFigure verb base) text ds ∧ Nat.ofDigits base ds.reverse = m

/-- The sign says whether the integer is negative. -/
inductive SignOf : List Char → Int → Prop where
  | minus {n : Int} (negative : n < 0) : SignOf ['-'] n
  | plus {n : Int} (natural : 0 ≤ n) : SignOf ['+'] n
  | absent {n : Int} (natural : 0 ≤ n) : SignOf [] n

/-- The mark of a base is written if it is asked for. -/
def shownMark (flags mark : List Char) : List Char := if '#' ∈ flags then mark else []

/-- The mark is asked for, and it has a letter. -/
def ShowsLetter (flags : List Char) (verb : Char) : Prop := '#' ∈ flags ∧ verb ∈ ['b', 'x', 'X']

/-- The text writes the integer under a verb with flags: a sign, the mark of the base if it is asked
for, and one or more figures of which the value is the magnitude. -/
inductive WritesInteger (verb : Char) (flags : List Char) : List Char → Int → Prop where
  | written {base : Nat} {mark sign text : List Char} {n : Int}
      (kind : IntegerVerb verb base mark) (signed : SignOf sign n) (nonempty : text ≠ [])
      (figures : Figures verb base text n.natAbs) :
      WritesInteger verb flags (sign ++ (shownMark flags mark ++ text)) n

/-- The text without the spaces at either end. -/
def withoutSpaces (text : List Char) : List Char :=
  (text.dropWhile (· == ' ')).rdropWhile (· == ' ')

section Figures

variable {verb c : Char} {base d : Nat} {mark flags text : List Char}

theorem IntegerVerb.unique {base' : Nat} {mark' : List Char} (h : IntegerVerb verb base mark)
    (h' : IntegerVerb verb base' mark') : base = base' ∧ mark = mark' := by
  cases h <;> cases h' <;> exact ⟨rfl, rfl⟩

theorem nodup_figuresOf (verb : Char) : (figuresOf verb).Nodup := by
  unfold figuresOf
  split <;> decide

theorem IsFigure.unique : Relator.RightUnique (IsFigure verb base) := by
  rintro c d d' ⟨-, figure⟩ ⟨-, figure'⟩
  have bound : d < (figuresOf verb).length := (List.getElem?_eq_some_iff.1 figure).1
  exact (List.getElem?_inj bound (nodup_figuresOf verb)).1 (figure.trans figure'.symm)

/-- Figures are neither signs nor spaces. -/
theorem IsFigure.not_isSign (h : IsFigure verb base c d) : ¬ IsSign c := by
  have plain : ∀ verb : Char, ∀ c ∈ figuresOf verb, ¬ IsSign c := by
    intro verb
    unfold figuresOf
    split <;> simp [IsSign]
  exact plain verb c (List.mem_of_getElem? h.2)

theorem Figures.not_isSign {m : Nat} (h : Figures verb base text m) : ∀ c ∈ text, ¬ IsSign c := by
  obtain ⟨ds, figures, -⟩ := h
  induction figures with
  | nil => nofun
  | cons first _ ih => exact List.forall_mem_cons.2 ⟨first.not_isSign, ih⟩

theorem Figures.unique {m m' : Nat} (h : Figures verb base text m)
    (h' : Figures verb base text m') : m = m' := by
  obtain ⟨ds, figures, rfl⟩ := h
  obtain ⟨ds', figures', rfl⟩ := h'
  rw [List.right_unique_forall₂' IsFigure.unique figures figures']

/-- Zeros in front do not change the value. -/
theorem Figures.replicate_zero_append {m : Nat} (positive : 0 < base) (h : Figures verb base text m)
    (zeros : Nat) : Figures verb base (List.replicate zeros '0' ++ text) m := by
  obtain ⟨ds, figures, value⟩ := h
  have zero : IsFigure verb base '0' 0 := by
    refine ⟨positive, ?_⟩
    unfold figuresOf
    split <;> rfl
  refine ⟨List.replicate zeros 0 ++ ds, ?_, ?_⟩
  · induction zeros with
    | zero => exact figures
    | succ zeros ih => exact .cons zero ih
  · rw [List.reverse_append, List.reverse_replicate, Nat.ofDigits_append_replicate_zero, value]

/-- The character as the verb writes it. -/
def cased (verb c : Char) : Char := if verb = 'X' then c.toUpper else c

/-- The figures that are written for a number. -/
def figuresIn (verb : Char) (base m : Nat) : List Char := (Nat.toDigits base m).map (cased verb)

theorem isFigure_digitChar (small : d < base) (atMost : base ≤ 16) :
    IsFigure verb base (cased verb (Nat.digitChar d)) d := by
  have capital : ∀ d < 16, "0123456789ABCDEF".toList[d]? = some (Nat.digitChar d).toUpper := by
    decide
  have lower : ∀ d < 16, "0123456789abcdef".toList[d]? = some (Nat.digitChar d) := by
    decide
  refine ⟨small, ?_⟩
  unfold figuresOf cased
  split
  · exact capital d (by omega)
  · exact lower d (by omega)

theorem Figures.append_figure {m : Nat} (h : Figures verb base text m)
    (figure : IsFigure verb base c d) : Figures verb base (text ++ [c]) (base * m + d) := by
  obtain ⟨ds, figures, rfl⟩ := h
  refine ⟨ds ++ [d], List.rel_append figures (.cons figure .nil), ?_⟩
  rw [List.reverse_append, List.reverse_singleton, List.singleton_append, Nat.ofDigits_cons,
    Nat.add_comm]

theorem figures_figuresIn (atLeast : 1 < base) (atMost : base ≤ 16) (m : Nat) :
    Figures verb base (figuresIn verb base m) m := by
  induction m using Nat.strongRecOn with
  | ind m ih =>
    by_cases small : m < base
    · refine ⟨[m], ?_, Nat.ofDigits_singleton⟩
      rw [figuresIn, Nat.toDigits_of_lt_base small]
      exact .cons (isFigure_digitChar small atMost) .nil
    · have before := ih (m / base) (Nat.div_lt_self (by omega) atLeast)
      have last : m % base < base := Nat.mod_lt m (by omega)
      have whole := before.append_figure (isFigure_digitChar last atMost)
      rw [Nat.div_add_mod] at whole
      rwa [figuresIn, Nat.toDigits_eq_if atLeast, if_neg small, List.map_append]

theorem figuresIn_ne_nil (m : Nat) : figuresIn verb base m ≠ [] := by
  simp [figuresIn]

theorem IntegerVerb.base_bounds (h : IntegerVerb verb base mark) : 1 < base ∧ base ≤ 16 := by
  cases h <;> decide

theorem ShowsLetter.exists_letter (h : ShowsLetter flags verb) (kind : IntegerVerb verb base mark) :
    ∃ letter, letter ≠ '0' ∧ shownMark flags mark = ['0', letter] := by
  obtain ⟨sharp, lettered⟩ := h
  rw [shownMark, if_pos sharp]
  cases kind <;> simp at lettered ⊢

theorem IntegerVerb.figures (h : IntegerVerb verb base mark) (m : Nat) :
    Figures verb base (figuresIn verb base m) m :=
  figures_figuresIn h.base_bounds.1 h.base_bounds.2 m

end Figures

section Written

variable {verb : Char} {base : Nat} {mark flags text sign : List Char} {n m : Int}

theorem SignOf.isSign (h : SignOf sign n) : ∀ c ∈ sign, IsSign c := by
  cases h <;> simp [IsSign]

/-- What follows the sign of a written integer does not begin with another one. -/
theorem longestRun_sign (signs : ∀ c ∈ sign, IsSign c) {after : List Char}
    (stops : ∀ c ∈ after.head?, ¬ IsSign c) :
    LongestRun (fun c => decide (IsSign c)) sign after :=
  ⟨fun c mem => decide_eq_true (signs c mem), fun c first => decide_eq_false (stops c first)⟩

/-- There is no sign and no space from the mark on. -/
theorem Figures.not_isSign_of_mem {m : Nat} (h : Figures verb base text m)
    (kind : IntegerVerb verb base mark) (flags : List Char) :
    ∀ c ∈ shownMark flags mark ++ text, ¬ IsSign c := by
  intro c mem
  rcases List.mem_append.1 mem with marked | figure
  · have plain : ∀ c ∈ mark, ¬ IsSign c := by
      cases kind <;> simp [IsSign]
    unfold shownMark at marked
    split at marked
    · exact plain c marked
    · cases marked
  · exact h.not_isSign c figure

theorem Figures.head?_not_isSign {m : Nat} (h : Figures verb base text m)
    (kind : IntegerVerb verb base mark) (flags : List Char) :
    ∀ c ∈ (shownMark flags mark ++ text).head?, ¬ IsSign c := fun c first =>
  h.not_isSign_of_mem kind flags c (List.mem_of_mem_head? first)

theorem WritesInteger.exists_parts (h : WritesInteger verb flags text n) :
    ∃ base mark sign figures, IntegerVerb verb base mark ∧ SignOf sign n ∧ figures ≠ [] ∧
      Figures verb base figures n.natAbs ∧ text = sign ++ (shownMark flags mark ++ figures) := by
  obtain ⟨kind, signed, nonempty, figures⟩ := h
  exact ⟨_, _, _, _, kind, signed, nonempty, figures, rfl⟩

/-- A written integer is read in one way only. -/
theorem WritesInteger.unique (h : WritesInteger verb flags text n)
    (h' : WritesInteger verb flags text m) : n = m := by
  obtain ⟨base, mark, sign, read, kind, signed, -, figures, rfl⟩ := h.exists_parts
  obtain ⟨base', mark', sign', read', kind', signed', -, figures', same⟩ := h'.exists_parts
  obtain ⟨rfl, rfl⟩ := kind.unique kind'
  have run := longestRun_sign signed.isSign (figures.head?_not_isSign kind flags)
  have run' := longestRun_sign signed'.isSign (figures'.head?_not_isSign kind' flags)
  obtain ⟨rfl, behind⟩ := run.unique run' same
  obtain rfl := List.append_cancel_left behind
  have magnitude := figures.unique figures'
  cases signed <;> cases signed' <;> omega

/-- With two zeros behind the sign there is no letter where the mark has one. -/
theorem not_writesInteger_of_zeros (lettered : ShowsLetter flags verb)
    (signs : ∀ c ∈ sign, IsSign c) (rest : List Char) :
    ¬ WritesInteger verb flags (sign ++ '0' :: '0' :: rest) n := by
  intro h
  obtain ⟨base, mark, sign', read, kind, signed, -, figures, same⟩ := h.exists_parts
  obtain ⟨letter, other, shown⟩ := lettered.exists_letter kind
  have run : LongestRun (fun c => decide (IsSign c)) sign ('0' :: '0' :: rest) :=
    longestRun_sign signs (by simp [IsSign])
  have run' := longestRun_sign signed.isSign (figures.head?_not_isSign kind flags)
  obtain ⟨-, behind⟩ := run.unique run' same
  rw [shown] at behind
  exact other (List.cons.inj (List.cons.inj behind).2).1.symm

theorem ShowsLetter.zeros_append (lettered : ShowsLetter flags verb)
    (kind : IntegerVerb verb base mark) {zeros : Nat} (positive : zeros ≠ 0) (text : List Char) :
    ∃ rest, List.replicate zeros '0' ++ (shownMark flags mark ++ text) = '0' :: '0' :: rest := by
  obtain ⟨letter, -, shown⟩ := lettered.exists_letter kind
  obtain ⟨zeros, rfl⟩ := Nat.exists_eq_succ_of_ne_zero positive
  cases zeros with
  | zero => exact ⟨letter :: text, by simp [shown]⟩
  | succ zeros => exact ⟨_, rfl⟩

/-- Marks without a letter are zeros themselves, so that more zeros may stand on either side. -/
theorem replicate_append_shownMark (kind : IntegerVerb verb base mark) {zeros : Nat}
    (plain : ¬ (ShowsLetter flags verb ∧ zeros ≠ 0)) :
    List.replicate zeros '0' ++ shownMark flags mark =
      shownMark flags mark ++ List.replicate zeros '0' := by
  by_cases empty : zeros = 0
  · simp [empty]
  · unfold shownMark
    split
    · cases kind with
      | decimal => simp
      | octal => exact List.replicate_succ'.symm
      | binary | hexadecimal | upperHexadecimal => simp_all [ShowsLetter]
    · simp

theorem writesInteger_of_zeros (kind : IntegerVerb verb base mark) (signed : SignOf sign n)
    (nonempty : text ≠ []) (figures : Figures verb base text n.natAbs) {zeros : Nat}
    (plain : ¬ (ShowsLetter flags verb ∧ zeros ≠ 0)) :
    WritesInteger verb flags
      (sign ++ (List.replicate zeros '0' ++ (shownMark flags mark ++ text))) n := by
  have positive : 0 < base := Nat.lt_trans Nat.zero_lt_one kind.base_bounds.1
  have more := figures.replicate_zero_append positive zeros
  rw [← List.append_assoc (List.replicate zeros '0'), replicate_append_shownMark kind plain,
    List.append_assoc]
  exact .written kind signed (by simp [nonempty]) more

/-- Zeros behind the sign leave the integer as it is, unless they stand before a mark that has a
letter. -/
theorem writesInteger_zeros_iff (kind : IntegerVerb verb base mark) (signed : SignOf sign n)
    (nonempty : text ≠ []) (figures : Figures verb base text n.natAbs) (zeros : Nat) :
    WritesInteger verb flags
        (sign ++ (List.replicate zeros '0' ++ (shownMark flags mark ++ text))) m ↔
      m = n ∧ ¬ (ShowsLetter flags verb ∧ zeros ≠ 0) := by
  by_cases hidden : ShowsLetter flags verb ∧ zeros ≠ 0
  · obtain ⟨rest, front⟩ := hidden.1.zeros_append kind hidden.2 text
    rw [front]
    have refuted := not_writesInteger_of_zeros (n := m) hidden.1 signed.isSign rest
    exact ⟨fun h => absurd h refuted, fun h => absurd hidden h.2⟩
  · have reads := writesInteger_of_zeros kind signed nonempty figures hidden
    exact ⟨fun h => ⟨h.unique reads, hidden⟩, fun h => h.1 ▸ reads⟩

theorem not_mem_space (kind : IntegerVerb verb base mark) (signed : SignOf sign n) {m : Nat}
    (figures : Figures verb base text m) (flags : List Char) (zeros : Nat) :
    ' ' ∉ sign ++ (List.replicate zeros '0' ++ (shownMark flags mark ++ text)) := by
  have noSpace : ' ' ∉ sign := by
    cases signed <;> simp
  have rest : ' ' ∉ shownMark flags mark ++ text := fun mem =>
    figures.not_isSign_of_mem kind flags ' ' mem (by decide)
  simp only [List.mem_append (s := sign), List.mem_append (s := List.replicate zeros '0'), not_or]
  exact ⟨noSpace, by simp, rest⟩

end Written

theorem withoutSpaces_of_padded {text : List Char} (nonempty : text ≠ [])
    (noSpace : ' ' ∉ text) (before after : Nat) :
    withoutSpaces (List.replicate before ' ' ++ (text ++ List.replicate after ' ')) = text := by
  have spaces (count : Nat) : ∀ c ∈ List.replicate count ' ', (c == ' ') = true := by
    simp
  have other {c : Char} (mem : c ∈ text) : (c == ' ') = false := by
    rw [beq_eq_false_iff_ne]
    rintro rfl
    exact noSpace mem
  have left : LongestRun (· == ' ') (List.replicate before ' ')
      (text ++ List.replicate after ' ') := by
    refine ⟨spaces before, fun c first => other ?_⟩
    rw [List.head?_append_of_ne_nil _ nonempty] at first
    exact List.mem_of_mem_head? first
  have right : LongestRun (· == ' ') (List.replicate after ' ') text.reverse := by
    refine ⟨spaces after, fun c last => other ?_⟩
    exact List.mem_reverse.1 (List.mem_of_mem_head? last)
  rw [withoutSpaces, left.dropWhile_append, List.rdropWhile, List.reverse_append,
    List.reverse_replicate, right.dropWhile_append, List.reverse_reverse]

namespace Directive

/-- A sign and a space for one, before what begins with neither, are in front of all zeros. -/
theorem pad_signed {d : Directive} {sign rest : List Char} (atMostOne : sign.length ≤ 1)
    (signs : ∀ c ∈ sign, IsSign c) (unsigned : ∀ c ∈ rest.head?, ¬ IsSign c) :
    d.pad ⟨sign ++ rest, true⟩ =
      if '-' ∈ d.flags then
        sign ++ (rest ++ List.replicate (d.width?.getD 0 - (sign ++ rest).length) ' ')
      else if '0' ∈ d.flags then
        sign ++ (List.replicate (d.width?.getD 0 - (sign ++ rest).length) '0' ++ rest)
      else List.replicate (d.width?.getD 0 - (sign ++ rest).length) ' ' ++ (sign ++ rest) := by
  simp only [pad, minus, zero, decide_eq_true_eq, Bool.and_true]
  generalize d.width?.getD 0 - (sign ++ rest).length = fill
  by_cases full : fill = 0
  · simp [full]
  · simp only [if_neg full, List.append_assoc]
    cases sign with
    | nil =>
      cases rest with
      | nil => simp
      | cons c rest =>
        have plain : ¬ (c = '-' ∨ c = '+' ∨ c = ' ') := unsigned c rfl
        simp [plain]
    | cons c more =>
      obtain rfl : more = [] := by simpa using atMostOne
      have signed : c = '-' ∨ c = '+' ∨ c = ' ' := signs c List.mem_cons_self
      simp [signed]

theorem sign_eq (d : Directive) (n : Int) : ∃ blank sign,
    d.sign (n < 0) = List.replicate blank ' ' ++ sign ∧ (d.sign (n < 0)).length ≤ 1 ∧
      SignOf sign n := by
  unfold sign
  split
  · rename_i negative
    exact ⟨0, ['-'], rfl, le_rfl, .minus (of_decide_eq_true negative)⟩
  · rename_i natural
    have nonnegative : 0 ≤ n := by simpa using natural
    split
    · exact ⟨0, ['+'], rfl, le_rfl, .plus nonnegative⟩
    · split
      · exact ⟨1, [], rfl, le_rfl, .absent nonnegative⟩
      · exact ⟨0, [], rfl, Nat.zero_le 1, .absent nonnegative⟩

theorem integer_eq (d : Directive) (verb : Char) (base : Nat) (mark : List Char) (n : Int64) :
    d.integer verb base mark n = d.sign (n.toInt < 0) ++
      (shownMark d.flags mark ++ figuresIn verb base n.toInt.natAbs) := by
  have written (figures : List Char) :
      figures.map (cased verb) = if verb = 'X' then figures.map Char.toUpper else figures := by
    unfold cased
    split <;> simp
  rw [integer, List.append_assoc, figuresIn, written]
  simp [shownMark, sharp]

theorem body?_integer {verb : Char} {base : Nat} {mark : List Char}
    (kind : IntegerVerb verb base mark) (d : Directive) (n : Int64) :
    d.body? verb (.int n) = some ⟨d.integer verb base mark n, true⟩ := by
  cases kind <;> rfl

/-- Zeros that pad an integer are behind its sign, before the mark and the figures. -/
theorem pad_integer {verb : Char} {base : Nat} {mark : List Char}
    (kind : IntegerVerb verb base mark) (d : Directive) (n : Int64) :
    ∃ before after zeros sign, SignOf sign n.toInt ∧
      d.pad ⟨d.integer verb base mark n, true⟩ =
        List.replicate before ' ' ++ (sign ++ (List.replicate zeros '0' ++
          (shownMark d.flags mark ++ figuresIn verb base n.toInt.natAbs)) ++
            List.replicate after ' ') ∧
      (zeros ≠ 0 ↔ '0' ∈ d.flags ∧ '-' ∉ d.flags ∧
        (d.integer verb base mark n).length < d.width?.getD 0) := by
  obtain ⟨blank, sign, signEq, atMostOne, signed⟩ := d.sign_eq n.toInt
  have figures := kind.figures n.toInt.natAbs
  have signs : ∀ c ∈ d.sign (n.toInt < 0), IsSign c := by
    rw [signEq]
    intro c mem
    rcases List.mem_append.1 mem with space | mem
    · exact .inr (.inr (List.eq_of_mem_replicate space))
    · exact signed.isSign c mem
  have padded := pad_signed (d := d) atMostOne signs (figures.head?_not_isSign kind d.flags)
  obtain ⟨fill, missing⟩ : ∃ fill, d.width?.getD 0 - (d.integer verb base mark n).length = fill :=
    ⟨_, rfl⟩
  rw [← integer_eq, missing] at padded
  rw [padded]
  by_cases minus : '-' ∈ d.flags
  · refine ⟨blank, fill, 0, sign, signed, ?_, by simp [minus]⟩
    simp only [if_pos minus, signEq, List.replicate_zero, List.nil_append, List.append_assoc]
  · by_cases zero : '0' ∈ d.flags
    · refine ⟨blank, 0, fill, sign, signed, ?_, ?_⟩
      · simp only [if_neg minus, if_pos zero, signEq, List.replicate_zero, List.append_nil,
          List.append_assoc]
      · rw [← missing, Nat.sub_ne_zero_iff_lt]
        simp [minus, zero]
    · refine ⟨fill + blank, 0, 0, sign, signed, ?_, by simp [zero]⟩
      simp only [if_neg minus, if_neg zero, integer_eq, signEq, ← List.replicate_append_replicate,
        List.replicate_zero, List.append_nil, List.nil_append, List.append_assoc]

end Directive

theorem IntegerVerb.fits {verb : Char} {base : Nat} {mark : List Char}
    (kind : IntegerVerb verb base mark) (n : Int64) : Fits verb (.int n) := by
  cases kind <;> exact .integer (by decide) n

theorem exists_integerVerb {verb : Char} (based : verb ∈ ['d', 'b', 'o', 'x', 'X']) :
    ∃ base mark, IntegerVerb verb base mark := by
  simp only [List.mem_cons, List.not_mem_nil, or_false] at based
  rcases based with rfl | rfl | rfl | rfl | rfl
  exacts [⟨_, _, .decimal⟩, ⟨_, _, .binary⟩, ⟨_, _, .octal⟩, ⟨_, _, .hexadecimal⟩,
    ⟨_, _, .upperHexadecimal⟩]

namespace WrittenDirective

variable {w : WrittenDirective} {base : Nat} {mark : List Char}

/-- Zeros that pad an integer of this length stand before a mark that has a letter. -/
def ZerosBeforeMark (w : WrittenDirective) (length : Nat) : Prop :=
  ShowsLetter w.flags w.verb ∧ '0' ∈ w.flags ∧ '-' ∉ w.flags ∧ length < w.widthValue

theorem flags_directive (w : WrittenDirective) : w.directive.flags = w.flags := rfl

theorem width?_of_within (within : w.widthValue ≤ limit) :
    ¬ OverLimit w.directive.width ∧ w.directive.width?.getD 0 = w.widthValue := by
  by_cases empty : w.width = []
  · have absent : w.directive.width = none := by
      rw [directive, Decimal.value?, if_pos empty]
    simp [Directive.width?, OverLimit, absent, widthValue, empty]
  · rw [Directive.width?, width_directive empty, Option.filter_some, if_pos (by simpa)]
    exact ⟨by simpa [OverLimit] using within, rfl⟩

theorem shows_integer (within : w.widthValue ≤ limit) (kind : IntegerVerb w.verb base mark)
    (n : Int64) :
    Shows w.text (.int n)
      (w.precisionNotice ++ w.directive.pad ⟨w.directive.integer w.verb base mark n, true⟩) := by
  have shown := w.shows_body (kind.fits n) (Directive.body?_integer kind w.directive n)
  rwa [notices_of_within (width?_of_within within).1] at shown

/-- Without the spaces around it, what a directive shows for an integer is a sign that tells whether
it is negative, zeros that pad it, and what writes its magnitude. The text reads back as the
integer, and as no other, unless zeros stand before a mark that has a letter; then it is of no
integer. -/
theorem reads_back_iff (w : WrittenDirective) (based : w.verb ∈ ['d', 'b', 'o', 'x', 'X'])
    (within : w.widthValue ≤ limit) (n : Int64) :
    ∃ bare piece : List Char,
      Shows w.withoutWidth.text (.int n) (w.precisionNotice ++ bare) ∧
      Shows w.text (.int n) (w.precisionNotice ++ piece) ∧
      (∃ sign zeros rest, SignOf sign n.toInt ∧
        withoutSpaces piece = sign ++ (List.replicate zeros '0' ++ rest) ∧
        WritesInteger w.verb w.flags (sign ++ rest) n.toInt) ∧
      ∀ m, WritesInteger w.verb w.flags (withoutSpaces piece) m ↔
        m = n.toInt ∧ ¬ w.ZerosBeforeMark bare.length := by
  obtain ⟨base, mark, kind⟩ := exists_integerVerb based
  have bare : Shows w.withoutWidth.text (.int n)
      (w.precisionNotice ++ w.directive.integer w.verb base mark n) := by
    -- The integer is the same without the width.
    have shown := shows_integer (w := w.withoutWidth) (Nat.zero_le limit) kind n
    rwa [Directive.pad_of_unbounded rfl] at shown
  refine ⟨_, _, bare, shows_integer within kind n, ?_⟩
  obtain ⟨before, after, zeros, sign, signed, padded, anyZeros⟩ :=
    Directive.pad_integer kind w.directive n
  rw [flags_directive] at padded anyZeros
  rw [(width?_of_within within).2] at anyZeros
  have figures := kind.figures n.toInt.natAbs
  have nonempty : figuresIn w.verb base n.toInt.natAbs ≠ [] := figuresIn_ne_nil _
  have spaceless := not_mem_space kind signed figures w.flags zeros
  rw [padded, withoutSpaces_of_padded (by simp [nonempty]) spaceless]
  refine ⟨⟨sign, zeros, _, signed, rfl, .written kind signed nonempty figures⟩, fun m => ?_⟩
  rw [ZerosBeforeMark, ← anyZeros]
  exact writesInteger_zeros_iff kind signed nonempty figures zeros

/-- A hexadecimal number with its sign and zeros behind it. -/
def paddedNumber : WrittenDirective := { signedNumber with verb := 'x' }

theorem reads_back_iff_paddedNumber :
    'x' ∈ ['d', 'b', 'o', 'x', 'X'] ∧ paddedNumber.widthValue ≤ limit ∧
      format "%+08x" [.int (-255)] = "-00000ff" ∧
      ∀ m, WritesInteger 'x' ['+', '0'] (withoutSpaces "-00000ff".toList) m ↔ m = -255 := by
  have based : 'x' ∈ ['d', 'b', 'o', 'x', 'X'] := by decide
  have within : paddedNumber.widthValue ≤ limit := by decide
  obtain ⟨bare, piece, -, shown, -, reads⟩ := reads_back_iff paddedNumber based within (-255)
  have text : format "%+08x" [.int (-255)] = "-00000ff" :=
    (shows_integer (w := paddedNumber) within .hexadecimal (-255)).format_eq
  have same : piece = "-00000ff".toList := by
    rw [← text, ← String.toList_ofList (l := piece)]
    exact congrArg String.toList shown.format_eq.symm
  have unmarked : ¬ paddedNumber.ZerosBeforeMark bare.length := by
    simp [ZerosBeforeMark, ShowsLetter, paddedNumber, signedNumber]
  refine ⟨based, within, text, fun m => ?_⟩
  rw [← same]
  exact (reads m).trans (and_iff_left unmarked)

/-- A hexadecimal number with its mark and zeros. -/
def markedNumber : WrittenDirective :=
  { signedNumber with flags := ['#', '0'], verb := 'x', areFlags := by simp [isFlag] }

/-- The zeros stand before the mark, so that there is no integer to read. -/
theorem zeros_before_hexadecimal_mark :
    format "%#08x" [.int 255] = "00000xff" ∧
      ∀ m, ¬ WritesInteger 'x' ['#', '0'] (withoutSpaces "00000xff".toList) m := by
  have within : markedNumber.widthValue ≤ limit := by decide
  have lettered : ShowsLetter ['#', '0'] 'x' := ⟨by decide, by decide⟩
  have unsigned : ∀ c ∈ [], IsSign c := by simp
  exact ⟨(shows_integer (w := markedNumber) within .hexadecimal 255).format_eq,
    fun m => not_writesInteger_of_zeros lettered unsigned "000xff".toList⟩

end WrittenDirective

end ResourceLoom.Template
