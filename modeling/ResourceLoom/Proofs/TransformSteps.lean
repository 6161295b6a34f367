import ResourceLoom.Proofs.FirstElements
import ResourceLoom.Transform.Resolve

/-! # One step of a chain

Every transform but combine makes each value on its own into another one. What it makes of a single
value says what it does to any number of them: the results in order, or the first error with the
position of its value. A missing multiplier is noticed before any value is looked at. `single_cases`
lists all that can become of a value; what the other modules say of a step is derived from it.
-/
namespace ResourceLoom

/-- The failure is not about the kind of a value, nor about there being none. -/
inductive Cause.KindIndependent : Cause → Prop where
  | noMultiplier : KindIndependent .noMultiplier
  | mathOverflow (value multiplier : Int64) : KindIndependent (.mathOverflow value multiplier)
  | keyNotFound (key : String) : KindIndependent (.keyNotFound key)
  | parseFailed (input : String) (target : Kind) (fault : ConversionFault) :
      KindIndependent (.parseFailed input target fault)
  | combineRequired (count : Nat) : KindIndependent (.combineRequired count)

namespace Transform

theorem multiply_cases (multiplier : Int64) (v : Document) :
    (Kind.of? v ≠ some .int ∧ multiply multiplier v = .error (.ofCause .nonNumericInput)) ∨
    ∃ n, v = .int n ∧ ((∃ product, multiply multiplier v = .ok (.int product)) ∨
      multiply multiplier v = .error (.ofCause (.mathOverflow n multiplier))) := by
  cases v with
  | number value =>
    cases value with
    | int n =>
      refine .inr ⟨n, rfl, ?_⟩
      by_cases fits : Decimal.inInt64 (n.toInt * multiplier.toInt)
      · exact .inl ⟨.ofInt (n.toInt * multiplier.toInt), by simp [multiply, Document.asInt?, fits]⟩
      · exact .inr (by simp [multiply, Document.asInt?, fits])
    | word value beyond => exact .inl ⟨nofun, rfl⟩
    | float value => exact .inl ⟨nofun, rfl⟩
  | _ => exact .inl ⟨nofun, rfl⟩

theorem lookUp_cases (pairs : TextMap) (v : Document) :
    (Kind.of? v ≠ some .string ∧
      lookUp pairs v = .error (.ofCause (.unsupportedMapInput v.kindName))) ∨
    ∃ key, v = .string key ∧ ((∃ mapped, lookUp pairs v = .ok (.string mapped)) ∨
      lookUp pairs v = .error (.ofCause (.keyNotFound key))) := by
  cases v with
  | string key =>
    refine .inr ⟨key, rfl, ?_⟩
    cases found : pairs.find? key with
    | some mapped => exact .inl ⟨mapped, by simp [lookUp, found]⟩
    | none => exact .inr (by simp [lookUp, found])
  | number value => cases value <;> exact .inl ⟨nofun, rfl⟩
  | _ => exact .inl ⟨nofun, rfl⟩

/-- The result is a value of the kind, or a text could not be read as one. -/
def Converted (target : Kind) (result : Except Error Document) : Prop :=
  (∃ w, result = .ok w ∧ Kind.of? w = some target) ∨
    ∃ input fault, result = .error (.ofCause (.parseFailed input target fault))

theorem converted_integerOfText (s : String) : Converted .int (Conversion.integerOfText s) := by
  unfold Conversion.integerOfText
  cases Decimal.readInteger s with
  | ok n => exact .inl ⟨_, rfl, rfl⟩
  | error fault => exact .inr ⟨s, _, rfl⟩

theorem converted_boolOfText (s : String) : Converted .bool (Conversion.boolOfText s) := by
  unfold Conversion.boolOfText
  split
  · exact .inl ⟨_, rfl, rfl⟩
  split
  · exact .inl ⟨_, rfl, rfl⟩
  · exact .inr ⟨s, _, rfl⟩

theorem converted_floatOfText (s : String) : Converted .float64 (Conversion.floatOfText s) := by
  unfold Conversion.floatOfText
  rcases Decimal.readFloat s with fault | x
  · exact .inr ⟨s, _, rfl⟩
  · cases x with
    | some x => exact .inl ⟨_, rfl, rfl⟩
    | none => exact .inr ⟨s, _, rfl⟩

/-- A value of any of the four kinds is converted to each of them, unless its text cannot be
read. -/
theorem converted_convert (target : Kind) {v : Document} {source : Kind}
    (h : Kind.of? v = some source) : Converted target (Conversion.convert target v) := by
  cases v with
  | string s =>
    cases target with
    | string => exact .inl ⟨_, rfl, rfl⟩
    | int => exact converted_integerOfText s
    | bool => exact converted_boolOfText s
    | float64 => exact converted_floatOfText s
  | bool b => cases target <;> exact .inl ⟨_, rfl, rfl⟩
  | number value =>
    cases value with
    | int n => cases target <;> exact .inl ⟨_, rfl, rfl⟩
    | float x => cases target <;> exact .inl ⟨_, rfl, rfl⟩
    | word value beyond => cases h
  | null | array | object => cases h

theorem convert_of_no_kind (target : Kind) {v : Document} (h : Kind.of? v = none) :
    Conversion.convert target v = .error (.ofCause (.unsupportedInputKind v.kindName)) := by
  simp [Conversion.convert, h, Conversion.refuse]

/-- The transform takes values of the kind; none is that of nulls, arrays, objects and integers
beyond the signed range. -/
def Admits : Transform → Option Kind → Prop
  | math _, kind => kind = some .int
  | map _, kind => kind = some .string
  | convert _, kind => kind ≠ none
  | string _, _ | combine _, _ => True

instance : (t : Transform) → (kind : Option Kind) → Decidable (t.Admits kind)
  | math _, kind => inferInstanceAs (Decidable (kind = some .int))
  | map _, kind => inferInstanceAs (Decidable (kind = some .string))
  | convert _, kind => inferInstanceAs (Decidable (kind ≠ none))
  | string _, _ | combine _, _ => .isTrue trivial

/-- The kind of what the transform makes. -/
def outputKind : Transform → Kind
  | math _ => .int
  | map _ | string _ | combine _ => .string
  | convert target => target

/-- The transform takes all its values together. -/
def Combines : Transform → Prop
  | combine _ => True
  | _ => False

/-- What a transform makes of a value on its own. -/
def single : Transform → Document → Except Error Document
  | math none, _ => .error (.ofCause .noMultiplier)
  | math (some multiplier), v => multiply multiplier v
  | map pairs, v => lookUp pairs v
  | string template, v => .ok (.string (Template.format template [v]))
  | convert target, v => Conversion.convert target v
  | combine (.string template), v => .ok (combineText template [v])

/-- A value of a kind that the transform takes becomes one of the predicted kind, or it fails for
what kinds do not say; one of another kind fails. All failures are of the class of values. None is
that there are no values, and only a missing multiplier is reported as one. -/
theorem single_cases (t : Transform) (v : Document) :
    (t.Admits (Kind.of? v) ∧ ∃ w, t.single v = .ok w ∧ Kind.of? w = some t.outputKind) ∨
    ∃ cause, t.single v = .error (.ofCause cause) ∧ cause.errorClass = .resolution ∧
      (t.Admits (Kind.of? v) → cause.KindIndependent) ∧
      (cause = .noMultiplier → t = math none) ∧ cause ≠ .noInputValues := by
  cases t with
  | math multiplier =>
    cases multiplier with
    | none => exact .inr ⟨_, rfl, rfl, fun _ => .noMultiplier, fun _ => rfl, nofun⟩
    | some m =>
      rcases multiply_cases m v with ⟨otherKind, failed⟩ | ⟨n, rfl, ⟨product, done⟩ | failed⟩
      · exact .inr ⟨_, failed, rfl, fun admits => absurd admits otherKind, nofun, nofun⟩
      · exact .inl ⟨rfl, _, done, rfl⟩
      · exact .inr ⟨_, failed, rfl, fun _ => .mathOverflow n m, nofun, nofun⟩
  | map pairs =>
    rcases lookUp_cases pairs v with ⟨otherKind, failed⟩ | ⟨key, rfl, ⟨mapped, done⟩ | failed⟩
    · exact .inr ⟨_, failed, rfl, fun admits => absurd admits otherKind, nofun, nofun⟩
    · exact .inl ⟨rfl, _, done, rfl⟩
    · exact .inr ⟨_, failed, rfl, fun _ => .keyNotFound key, nofun, nofun⟩
  | string template => exact .inl ⟨trivial, _, rfl, rfl⟩
  | convert target =>
    cases kind : Kind.of? v with
    | none =>
      have failed := convert_of_no_kind target kind
      exact .inr ⟨_, failed, rfl, fun admits => absurd rfl admits, nofun, nofun⟩
    | some source =>
      rcases converted_convert target kind with ⟨w, done, made⟩ | ⟨input, fault, failed⟩
      · exact .inl ⟨nofun, w, done, made⟩
      · exact .inr ⟨_, failed, rfl, fun _ => .parseFailed input target fault, nofun, nofun⟩
  | combine how => exact .inl ⟨trivial, _, rfl, rfl⟩

/-- An error at a value among several, with the position of the value where one was looked at. -/
def atValue (index : Nat) (inner : Error) : Error :=
  if inner.cause = .noMultiplier then inner else inner.within (.value index)

@[simp] theorem cause_atValue (index : Nat) (inner : Error) :
    (atValue index inner).cause = inner.cause := by
  unfold atValue
  split <;> rfl

section ResolveFrom

variable {resolve : Document → Except Error Document} {values results : List Document}

theorem resolveFrom_of_ok (h : values.map resolve = results.map .ok) (index : Nat) :
    resolveFrom resolve index values = .ok results := by
  induction values generalizing results index with
  | nil =>
    cases results with
    | nil => rfl
    | cons w results => cases h
  | cons v rest ih =>
    cases results with
    | nil => cases h
    | cons w results =>
      obtain ⟨first, further⟩ := List.cons.inj h
      rw [resolveFrom, first, ih further]
      rfl

theorem resolveFrom_of_error {before after : List Document} {v : Document} {e : Error}
    (passed : before.map resolve = results.map .ok) (failed : resolve v = .error e)
    (index : Nat) : resolveFrom resolve index (before ++ v :: after) =
      .error (e.within (.value (index + before.length))) := by
  induction before generalizing results index with
  | nil => simp [resolveFrom, failed]
  | cons u before ih =>
    cases results with
    | nil => cases passed
    | cons w results =>
      obtain ⟨first, further⟩ := List.cons.inj passed
      rw [List.cons_append, resolveFrom, first, ih further, List.length_cons, Nat.add_right_comm]
      rfl

end ResolveFrom

variable {t : Transform} {values results : List Document}

theorem resolveBare_singleton (t : Transform) (v : Document) :
    t.resolveBare [v] = (fun w => [w]) <$> t.single v := by
  cases t with
  | math multiplier => cases multiplier <;> rfl
  | combine how => rfl
  | _ => rfl

/-- Without values every transform fails, and it is a missing multiplier that is noticed first. -/
theorem resolveBare_nil (t : Transform) :
    (t = math none ∧ t.resolveBare [] = .error (.ofCause .noMultiplier)) ∨
      (t ≠ math none ∧ t.resolveBare [] = .error (.ofCause .noInputValues)) :=
  match t with
  | math none => .inl ⟨rfl, rfl⟩
  | math (some _) | map _ | string _ | convert _ | combine _ => .inr ⟨nofun, rfl⟩

theorem single_math_none (v : Document) :
    (math none).single v = .error (.ofCause .noMultiplier) := rfl

theorem resolveBare_several (separate : ¬ t.Combines) (several : 2 ≤ values.length)
    (multiplied : t ≠ math none) : t.resolveBare values = resolveFrom t.single 0 values := by
  obtain ⟨v, u, rest, rfl⟩ : ∃ v u rest, values = v :: u :: rest := by
    match values, several with
    | v :: u :: rest, _ => exact ⟨v, u, rest, rfl⟩
  cases t with
  | math multiplier =>
    cases multiplier with
    | none => exact absurd rfl multiplied
    | some m => rfl
  | combine how => exact absurd trivial separate
  | _ => rfl

theorem cause_ne_noMultiplier {v : Document} {e : Error} (multiplied : t ≠ math none)
    (failed : t.single v = .error e) : e.cause ≠ .noMultiplier := by
  rcases single_cases t v with ⟨-, w, done, -⟩ | ⟨cause, stopped, -, -, missing, -⟩
  · rw [done] at failed
    cases failed
  · rw [stopped] at failed
    cases failed
    exact fun same => multiplied (missing same)

/-- A transform that takes its values one by one either makes each of several into another one, or it
fails at the first that it makes nothing of. -/
theorem resolveBare_several_cases (separate : ¬ t.Combines) (several : 2 ≤ values.length) :
    (∃ results, values.map t.single = results.map .ok ∧ t.resolveBare values = .ok results) ∨
    ∃ (before : List Document) (v : Document) (after results : List Document) (inner : Error),
      values = before ++ v :: after ∧ before.map t.single = results.map .ok ∧
      t.single v = .error inner ∧ t.resolveBare values = .error (atValue before.length inner) := by
  by_cases multiplied : t = math none
  · subst multiplied
    cases values with
    | nil => exact absurd several (by decide)
    | cons v rest => exact .inr ⟨[], v, rest, [], _, rfl, rfl, single_math_none v, rfl⟩
  · rw [resolveBare_several separate several multiplied]
    rcases all_ok_or_first_error t.single values with ⟨results, all⟩ |
      ⟨before, v, after, results, inner, rfl, passed, failed⟩
    · exact .inl ⟨results, all, resolveFrom_of_ok all 0⟩
    · refine .inr ⟨before, v, after, results, inner, rfl, passed, failed, ?_⟩
      rw [resolveFrom_of_error passed failed, Nat.zero_add, atValue,
        if_neg (cause_ne_noMultiplier multiplied failed)]

/-- The cause of a failure is that of some value on its own. -/
theorem resolveBare_cases (separate : ¬ t.Combines) (nonempty : values ≠ []) :
    (∃ results, values.map t.single = results.map .ok ∧ t.resolveBare values = .ok results) ∨
    ∃ v ∈ values, ∃ inner e, t.single v = .error inner ∧ t.resolveBare values = .error e ∧
      e.cause = inner.cause := by
  match values with
  | [] => exact absurd rfl nonempty
  | [v] =>
    rw [resolveBare_singleton]
    cases alone : t.single v with
    | ok w => exact .inl ⟨[w], by simp [alone], rfl⟩
    | error inner => exact .inr ⟨v, List.mem_singleton_self v, inner, inner, alone, rfl, rfl⟩
  | v :: u :: rest =>
    have several : 2 ≤ (v :: u :: rest).length := by simp
    rcases resolveBare_several_cases separate several with done |
      ⟨before, w, after, results, inner, split, -, failed, reported⟩
    · exact .inl done
    · have mem : w ∈ v :: u :: rest := by simp [split]
      exact .inr ⟨w, mem, inner, _, failed, reported, cause_atValue _ inner⟩

theorem resolve_of_ok (h : t.resolveBare values = .ok results) :
    t.resolve values = .ok results := by
  rw [resolve, h]
  rfl

theorem resolve_of_error {e : Error} (h : t.resolveBare values = .error e) :
    t.resolve values = .error (e.within (.resolver t.typeName)) := by
  rw [resolve, h]
  rfl

/-- Makes a value an integer and doubles it. -/
def doubling : List Transform := [.convert .int, .math (some 2)]

end Transform
end ResourceLoom
