import ResourceLoom.Proofs.DoubleRange
import ResourceLoom.Proofs.IntegerTexts

/-! # Doubles as texts

The grammar of doubles: an optional sign, and then either a name of infinity or of no number, or
digits with at most one point and an exponent. A text of this grammar names a finite double unless
it is such a name or its value overflows; every other text is refused.
-/
namespace ResourceLoom.Decimal

/-- Digits with at most one point among or around them, with all the digits and the number of those
behind the point. -/
inductive Pointed : List Char → List Char → Nat → Prop where
  | whole {digits : List Char} (decimal : ∀ d ∈ digits, d.isDigit = true) : Pointed digits digits 0
  | fraction {whole places : List Char} (decimal : ∀ d ∈ whole, d.isDigit = true)
      (decimals : ∀ d ∈ places, d.isDigit = true) :
      Pointed (whole ++ '.' :: places) (whole ++ places) places.length

/-- What follows the digits: nothing, or the mark of the exponent and a numeral. -/
inductive Exponent : List Char → Int → Prop where
  | absent : Exponent [] 0
  | marked {mark : Char} {text : List Char} {n : Int} (letter : mark = 'e' ∨ mark = 'E')
      (numeral : SignedNumeral text n) : Exponent (mark :: text) n

/-- The text is a name of infinity or of no number, in letters of any case. -/
def NamesNoNumber (text : List Char) : Prop :=
  text.map Char.toLower ∈ ["inf".toList, "infinity".toList, "nan".toList]

instance (text : List Char) : Decidable (NamesNoNumber text) :=
  inferInstanceAs (Decidable (_ ∈ _))

/-- A double without a sign, with its value if it is a number. -/
inductive Magnitude : List Char → Option ℚ → Prop where
  | named {text : List Char} (name : NamesNoNumber text) : Magnitude text none
  | decimal {front back digits : List Char} {places : Nat} {exponent : Int}
      (pointed : Pointed front digits places) (nonempty : digits ≠ [])
      (raised : Exponent back exponent) : Magnitude (front ++ back)
        (some (Nat.ofDigitChars 10 digits 0 * 10 ^ (exponent - places)))

/-- A double with an optional sign. -/
inductive FloatLiteral : List Char → Option ℚ → Prop where
  | unsigned {text : List Char} {value : Option ℚ} (magnitude : Magnitude text value) :
      FloatLiteral text value
  | plus {text : List Char} {value : Option ℚ} (magnitude : Magnitude text value) :
      FloatLiteral ('+' :: text) value
  | minus {text : List Char} {value : Option ℚ} (magnitude : Magnitude text value) :
      FloatLiteral ('-' :: text) (value.map (- ·))

/-- The value is a number, and it does not overflow. -/
def Finite (value : Option ℚ) : Prop := ∃ q ∈ value, |q| < Binary64.overflow

section Parts

variable {cs front back digits text : List Char} {places : Nat} {exponent : Int}

theorem map_natural?_eq_some_iff {value : Int → Int} :
    (natural? digits >>= fun n => pure (n : Int)).map value = some exponent ↔ digits ≠ [] ∧
      (∀ d ∈ digits, d.isDigit = true) ∧ exponent = value (Nat.ofDigitChars 10 digits 0) := by
  simp only [Option.map_eq_some_iff, Option.bind_eq_bind, Option.bind_eq_some_iff,
    natural?_eq_some_iff, Option.pure_def, Option.some.injEq]
  constructor
  · rintro ⟨_, ⟨_, ⟨nonempty, decimal, rfl⟩, rfl⟩, rfl⟩
    exact ⟨nonempty, decimal, rfl⟩
  · rintro ⟨nonempty, decimal, rfl⟩
    exact ⟨_, ⟨_, ⟨nonempty, decimal, rfl⟩, rfl⟩, rfl⟩

theorem exponent?_marked {mark : Char} (letter : mark = 'e' ∨ mark = 'E') :
    exponent? (mark :: text) = some exponent ↔ SignedNumeral text exponent := by
  unfold exponent?
  simp only [if_pos letter]
  split
  · rw [signedNumeral_minus_iff]
    exact map_natural?_eq_some_iff
  · rw [signedNumeral_plus_iff]
    exact map_natural?_eq_some_iff
  · rename_i noMinus noPlus
    rw [signedNumeral_iff_of_unsigned noMinus noPlus]
    exact map_natural?_eq_some_iff

theorem exponent?_unmarked {mark : Char} (other : ¬ (mark = 'e' ∨ mark = 'E')) :
    exponent? (mark :: text) = none := by
  unfold exponent?
  simp only [if_neg other]

theorem exponent?_eq_some_iff : exponent? cs = some exponent ↔ Exponent cs exponent := by
  constructor
  · intro h
    cases cs with
    | nil =>
      cases h
      exact .absent
    | cons mark text =>
      by_cases letter : mark = 'e' ∨ mark = 'E'
      · exact .marked letter ((exponent?_marked letter).1 h)
      · rw [exponent?_unmarked letter] at h
        cases h
  · intro h
    cases h with
    | absent => rfl
    | marked letter numeral => exact (exponent?_marked letter).2 numeral

/-- Digits and a point are split off as a whole from what does not go on with them. -/
theorem pointed_append (h : Pointed front digits places)
    (stops : ∀ c ∈ back.head?, c.isDigit = false ∧ c ≠ '.') :
    pointed (front ++ back) = (digits, places, back) := by
  cases h with
  | whole decimal =>
    have run : LongestRun Char.isDigit front back := ⟨decimal, fun c first => (stops c first).1⟩
    rw [pointed, run.takeWhile_append, run.dropWhile_append]
    split
    · rename_i rest
      exact absurd rfl (stops '.' rfl).2
    · rfl
  | @fraction whole places decimal decimals =>
    have run : LongestRun Char.isDigit whole ('.' :: (places ++ back)) :=
      ⟨decimal, by simp⟩
    have behind : LongestRun Char.isDigit places back :=
      ⟨decimals, fun c first => (stops c first).1⟩
    rw [List.append_assoc, List.cons_append, pointed, run.takeWhile_append, run.dropWhile_append]
    simp only [behind.takeWhile_append, behind.dropWhile_append]

theorem exists_pointed (cs : List Char) :
    ∃ front, Pointed front (pointed cs).1 (pointed cs).2.1 ∧ cs = front ++ (pointed cs).2.2 := by
  obtain ⟨whole, rest, rfl, run⟩ := LongestRun.exists_split Char.isDigit cs
  rw [pointed, run.takeWhile_append, run.dropWhile_append]
  split
  · rename_i rest
    obtain ⟨places, back, rfl, behind⟩ := LongestRun.exists_split Char.isDigit rest
    rw [behind.takeWhile_append, behind.dropWhile_append]
    exact ⟨_, .fraction run.all behind.all, by simp⟩
  · exact ⟨_, .whole run.all, rfl⟩

theorem Pointed.exists_first (h : Pointed front digits places) (nonempty : digits ≠ []) :
    ∃ c rest, front = c :: rest ∧ (c.isDigit = true ∨ c = '.') := by
  cases h with
  | whole decimal =>
    obtain ⟨c, rest, rfl⟩ := List.exists_cons_of_ne_nil nonempty
    exact ⟨c, rest, rfl, .inl (decimal c List.mem_cons_self)⟩
  | @fraction whole places decimal _ =>
    cases whole with
    | nil => exact ⟨'.', places, rfl, .inr rfl⟩
    | cons c rest => exact ⟨c, _, rfl, .inl (decimal c List.mem_cons_self)⟩

theorem Exponent.stops (h : Exponent back exponent) :
    ∀ c ∈ back.head?, c.isDigit = false ∧ c ≠ '.' := by
  cases h with
  | absent => nofun
  | marked letter numeral => rcases letter with rfl | rfl <;> simp

/-- The names of infinity and of no number begin with letters. -/
theorem NamesNoNumber.first {c : Char} {rest : List Char} (h : NamesNoNumber (c :: rest)) :
    'A'.toNat ≤ c.toNat := by
  by_contra small
  have same : c.toLower = c := dif_neg fun upper => small upper.1
  simp only [NamesNoNumber, List.map_cons, same, List.mem_cons, List.not_mem_nil, or_false] at h
  rcases h with h | h | h
  all_goals
    rw [(List.cons.inj h).1] at small
    exact small (by decide)

/-- A double without a sign does not begin with one. -/
theorem Magnitude.first {c : Char} {rest : List Char} {value : Option ℚ}
    (h : Magnitude (c :: rest) value) : c ≠ '+' ∧ c ≠ '-' := by
  generalize whole : c :: rest = text at h
  cases h with
  | named name =>
    subst whole
    have letter := name.first
    constructor <;> rintro rfl <;> exact absurd letter (by decide)
  | decimal pointed nonempty raised =>
    obtain ⟨d, others, rfl, first⟩ := pointed.exists_first nonempty
    obtain ⟨rfl, -⟩ := List.cons.inj whole
    constructor <;> rintro rfl <;> exact absurd first (by decide)

end Parts

section Reading

variable {cs front back digits : List Char} {places : Nat} {exponent : Int} {negative : Bool}

theorem unsignedFloat?_of_named (name : NamesNoNumber cs) :
    unsignedFloat? negative cs = some none := by
  have named : cs.map Char.toLower = "inf".toList ∨ cs.map Char.toLower = "infinity".toList ∨
      cs.map Char.toLower = "nan".toList := by
    simpa only [NamesNoNumber, List.mem_cons, List.not_mem_nil, or_false] using name
  rw [unsignedFloat?]
  exact if_pos named

theorem unsignedFloat?_of_not_named (other : ¬ NamesNoNumber cs) :
    unsignedFloat? negative cs =
      if (pointed cs).1 = [] then none
      else (exponent? (pointed cs).2.2).map fun e =>
        Binary64.ofDecimal? negative (ofDigits (pointed cs).1) (e - (pointed cs).2.1) := by
  have unnamed : ¬ (cs.map Char.toLower = "inf".toList ∨ cs.map Char.toLower = "infinity".toList ∨
      cs.map Char.toLower = "nan".toList) := by
    simpa only [NamesNoNumber, List.mem_cons, List.not_mem_nil, or_false] using other
  rw [unsignedFloat?]
  exact if_neg unnamed

theorem unsignedFloat?_of_decimal (parts : Pointed front digits places) (nonempty : digits ≠ [])
    (raised : Exponent back exponent) : unsignedFloat? negative (front ++ back) =
      some (Binary64.ofDecimal? negative (Nat.ofDigitChars 10 digits 0) (exponent - places)) := by
  have unnamed : ¬ NamesNoNumber (front ++ back) := by
    obtain ⟨c, rest, rfl, first⟩ := parts.exists_first nonempty
    intro name
    have letter := name.first
    rcases first with digit | rfl
    · exact absurd (Nat.le_trans letter (Char.isDigit_iff_toNat.1 digit).2) (by decide)
    · exact absurd letter (by decide)
  rw [unsignedFloat?_of_not_named unnamed, pointed_append parts raised.stops, if_neg nonempty,
    exponent?_eq_some_iff.2 raised]
  rfl

/-- A double without a sign is read, as a number unless it names none or overflows. -/
theorem Magnitude.read {value : Option ℚ} (h : Magnitude cs value) :
    ∃ x, unsignedFloat? negative cs = some x ∧ (x = none ↔ ¬ Finite value) := by
  cases h with
  | named name => exact ⟨none, unsignedFloat?_of_named name, by simp [Finite]⟩
  | @decimal front back digits places exponent parts nonempty raised =>
    refine ⟨_, unsignedFloat?_of_decimal parts nonempty raised, ?_⟩
    have nonneg : (0 : ℚ) ≤ Nat.ofDigitChars 10 digits 0 * 10 ^ (exponent - places) := by positivity
    rw [Binary64.ofDecimal?_eq_none_iff]
    simp only [Finite, Option.mem_def, Option.some.injEq, exists_eq_left', abs_of_nonneg nonneg,
      not_lt]

theorem exists_magnitude {x : Option Binary64} (h : unsignedFloat? negative cs = some x) :
    ∃ value, Magnitude cs value := by
  by_cases name : NamesNoNumber cs
  · exact ⟨none, .named name⟩
  · obtain ⟨front, parts, split⟩ := exists_pointed cs
    rw [unsignedFloat?_of_not_named name] at h
    by_cases empty : (pointed cs).1 = []
    · rw [if_pos empty] at h
      cases h
    · rw [if_neg empty, Option.map_eq_some_iff] at h
      obtain ⟨exponent, raised, -⟩ := h
      have literal := Magnitude.decimal parts empty (exponent?_eq_some_iff.1 raised)
      rw [← split] at literal
      exact ⟨_, literal⟩

theorem finite_neg_iff {value : Option ℚ} : Finite (value.map (- ·)) ↔ Finite value := by
  cases value <;> simp [Finite]

/-- A double behind an optional sign. -/
def signedFloat? : List Char → Option (Option Binary64)
  | '-' :: rest => unsignedFloat? true rest
  | '+' :: rest => unsignedFloat? false rest
  | all => unsignedFloat? false all

theorem signedFloat?_of_unsigned (noMinus : ∀ rest, cs ≠ '-' :: rest)
    (noPlus : ∀ rest, cs ≠ '+' :: rest) : signedFloat? cs = unsignedFloat? false cs := by
  unfold signedFloat?
  split
  · exact absurd rfl (noMinus _)
  · exact absurd rfl (noPlus _)
  · rfl

variable {s : String} {value : Option ℚ} {x : Option Binary64}

theorem readFloat_eq_ok_iff : readFloat s = .ok x ↔ signedFloat? s.toList = some x := by
  by_cases empty : s.isEmpty = true
  · obtain rfl := String.isEmpty_iff.1 empty
    exact ⟨nofun, nofun⟩
  · rw [readFloat, if_neg empty]
    split
    · rename_i value read
      have signed : signedFloat? s.toList = some value := read
      simp [signed]
    · rename_i read
      have signed : signedFloat? s.toList = none := read
      simp [signed]

theorem FloatLiteral.read (h : FloatLiteral s.toList value) :
    ∃ x, readFloat s = .ok x ∧ (x = none ↔ ¬ Finite value) := by
  simp only [readFloat_eq_ok_iff]
  generalize s.toList = text at h
  cases h with
  | unsigned magnitude =>
    rw [signedFloat?_of_unsigned]
    · exact magnitude.read
    · rintro rest rfl
      exact magnitude.first.2 rfl
    · rintro rest rfl
      exact magnitude.first.1 rfl
  | plus magnitude => exact magnitude.read
  | minus magnitude =>
    rw [finite_neg_iff]
    exact magnitude.read

theorem exists_literal (h : readFloat s = .ok x) : ∃ value, FloatLiteral s.toList value := by
  rw [readFloat_eq_ok_iff] at h
  generalize s.toList = text at h
  unfold signedFloat? at h
  split at h
  · obtain ⟨value, magnitude⟩ := exists_magnitude h
    exact ⟨_, .minus magnitude⟩
  · obtain ⟨value, magnitude⟩ := exists_magnitude h
    exact ⟨_, .plus magnitude⟩
  · obtain ⟨value, magnitude⟩ := exists_magnitude h
    exact ⟨_, .unsigned magnitude⟩

end Reading

end ResourceLoom.Decimal
