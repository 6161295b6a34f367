import ResourceLoom.Proofs.Numerals
import ResourceLoom.Proofs.TransformSteps
import Mathlib.Data.List.Forall2

/-! # Exact products

A multiplication makes each integer into its exact product with the multiplier. It fails at the
first value that is no 64-bit integer or whose product 64 bits do not hold, and says which of the
two it was; products never wrap around. The position of the value is named among several values
only.
-/
namespace ResourceLoom.Transform

section ResolveEach

variable {resolve : Document → Except Error Document} {values results before after : List Document}
  {v : Document} {e inner : Error}

theorem forall₂_resolved_iff :
    List.Forall₂ (fun v w => resolve v = .ok w) values results ↔
      values.map resolve = results.map .ok := by
  rw [← List.forall₂_eq_eq_eq, List.forall₂_map_left_iff, List.forall₂_map_right_iff]

/-- An error at a value of a list, with the position of the value if there are others. -/
def atPosition (values before : List Document) (inner : Error) : Error :=
  if 2 ≤ values.length then inner.within (.value before.length) else inner

theorem resolveEach_several (several : 2 ≤ values.length) :
    resolveEach resolve values = resolveFrom resolve 0 values := by
  match values, several with
  | v :: u :: rest, _ => rfl

theorem resolveEach_of_ok (nonempty : values ≠ [])
    (all : values.map resolve = results.map .ok) : resolveEach resolve values = .ok results := by
  match values with
  | [] => exact absurd rfl nonempty
  | [v] =>
    obtain ⟨w, rfl, made⟩ := List.map_eq_singleton_iff.1 all.symm
    rw [resolveEach, ← made]
    rfl
  | v :: u :: rest => rw [resolveEach_several (by simp), resolveFrom_of_ok all]

theorem resolveEach_of_error (split : values = before ++ v :: after)
    (passed : before.map resolve = results.map .ok) (failed : resolve v = .error inner) :
    resolveEach resolve values = .error (atPosition values before inner) := by
  by_cases several : 2 ≤ values.length
  · rw [resolveEach_several several, atPosition, if_pos several, split,
      resolveFrom_of_error passed failed, Nat.zero_add]
  · have alone : before = [] ∧ after = [] := by
      simp only [split, List.length_append, List.length_cons] at several
      constructor <;> refine List.eq_nil_of_length_eq_zero ?_ <;> omega
    obtain ⟨rfl, rfl⟩ := alone
    rw [atPosition, if_neg several, split, List.nil_append, resolveEach, failed]
    rfl

theorem resolveEach_eq_ok_iff (nonempty : values ≠ []) :
    resolveEach resolve values = .ok results ↔
      List.Forall₂ (fun v w => resolve v = .ok w) values results := by
  rw [forall₂_resolved_iff]
  refine ⟨fun h => ?_, resolveEach_of_ok nonempty⟩
  rcases all_ok_or_first_error resolve values with ⟨made, all⟩ |
    ⟨before, v, after, made, inner, split, passed, failed⟩
  · rw [resolveEach_of_ok nonempty all, Except.ok.injEq] at h
    exact h ▸ all
  · rw [resolveEach_of_error split passed failed] at h
    cases h

/-- The error is that of the first value that is not resolved. -/
theorem resolveEach_eq_error_iff (nonempty : values ≠ []) :
    resolveEach resolve values = .error e ↔
      ∃ before v after inner, values = before ++ v :: after ∧
        (∀ u ∈ before, ∃ w, resolve u = .ok w) ∧ resolve v = .error inner ∧
        e = atPosition values before inner := by
  constructor
  · intro h
    rcases all_ok_or_first_error resolve values with ⟨made, all⟩ |
      ⟨before, v, after, made, inner, split, passed, failed⟩
    · rw [resolveEach_of_ok nonempty all] at h
      cases h
    · rw [resolveEach_of_error split passed failed, Except.error.injEq] at h
      exact ⟨before, v, after, inner, split, exists_ok_of_mem passed, failed, h.symm⟩
  · rintro ⟨before, v, after, inner, split, passed, failed, rfl⟩
    rcases all_ok_or_first_error resolve before with ⟨made, all⟩ |
      ⟨_, u, _, _, other, rfl, _, stopped⟩
    · exact resolveEach_of_error split all failed
    · obtain ⟨w, resolved⟩ := passed u (by simp)
      rw [resolved] at stopped
      cases stopped

end ResolveEach

/-- An integer and its exact product with the multiplier; 64 bits hold both. -/
inductive Product (multiplier : Int64) : Document → Document → Prop where
  | exactly {n product : Int64} (same : product.toInt = n.toInt * multiplier.toInt) :
      Product multiplier (.int n) (.int product)

/-- Why a value has no product: it is no 64-bit integer, or 64 bits do not hold the product. -/
inductive NoProduct (multiplier : Int64) : Document → Cause → Prop where
  | notInteger {v : Document} (other : ∀ n : Int64, v ≠ .int n) :
      NoProduct multiplier v .nonNumericInput
  | outOfRange {n : Int64} (beyond : ¬ (Int64.minValue.toInt ≤ n.toInt * multiplier.toInt ∧
      n.toInt * multiplier.toInt ≤ Int64.maxValue.toInt)) :
      NoProduct multiplier (.int n) (.mathOverflow n multiplier)

variable {multiplier : Int64} {v w : Document} {e : Error} {values : List Document}

theorem Product.ok (h : Product multiplier v w) : multiply multiplier v = .ok w := by
  obtain ⟨same⟩ := h
  rename_i n product
  have fits : Decimal.inInt64 (n.toInt * multiplier.toInt) = true :=
    same ▸ Decimal.inInt64_toInt product
  have value : Int64.ofInt (n.toInt * multiplier.toInt) = product := by
    rw [← same, Int64.ofInt_toInt]
  simp [multiply, Document.asInt?, Document.int, fits, value]

theorem NoProduct.error {cause : Cause} (h : NoProduct multiplier v cause) :
    multiply multiplier v = .error (.ofCause cause) := by
  cases h with
  | notInteger other =>
    cases v with
    | number value =>
      cases value with
      | int n => exact absurd rfl (other n)
      | word | float => rfl
    | _ => rfl
  | outOfRange beyond =>
    rw [← Decimal.inInt64_iff] at beyond
    simp [multiply, Document.asInt?, Document.int, beyond]

theorem product_or_noProduct (multiplier : Int64) (v : Document) :
    (∃ w, Product multiplier v w) ∨ ∃ cause, NoProduct multiplier v cause := by
  by_cases integer : ∃ n : Int64, v = .int n
  · obtain ⟨n, rfl⟩ := integer
    by_cases fits : Decimal.inInt64 (n.toInt * multiplier.toInt) = true
    · exact .inl ⟨_, .exactly (Decimal.toInt_ofInt_of_inInt64 fits)⟩
    · exact .inr ⟨_, .outOfRange (Decimal.inInt64_iff.not.1 fits)⟩
  · exact .inr ⟨_, .notInteger (not_exists.1 integer)⟩

theorem multiply_eq_ok_iff : multiply multiplier v = .ok w ↔ Product multiplier v w := by
  refine ⟨fun h => ?_, Product.ok⟩
  rcases product_or_noProduct multiplier v with ⟨made, product⟩ | ⟨cause, none⟩
  · rw [product.ok, Except.ok.injEq] at h
    exact h ▸ product
  · rw [none.error] at h
    cases h

theorem multiply_eq_error_iff :
    multiply multiplier v = .error e ↔
      ∃ cause, NoProduct multiplier v cause ∧ e = .ofCause cause := by
  constructor
  · intro h
    rcases product_or_noProduct multiplier v with ⟨made, product⟩ | ⟨cause, none⟩
    · rw [product.ok] at h
      cases h
    · rw [none.error, Except.error.injEq] at h
      exact ⟨cause, none, h.symm⟩
  · rintro ⟨cause, none, rfl⟩
    exact none.error

/-- A multiplication succeeds with the exact products of all its values, in order, and fails at the
first value that has none, whose position it names among several. -/
theorem resolveBare_products (multiplier : Int64) (nonempty : values ≠ []) :
    (∀ results, (math (some multiplier)).resolveBare values = .ok results ↔
      List.Forall₂ (Product multiplier) values results) ∧
    ∀ e, (math (some multiplier)).resolveBare values = .error e ↔
      ∃ before v after cause, values = before ++ v :: after ∧
        (∀ u ∈ before, ∃ w, Product multiplier u w) ∧ NoProduct multiplier v cause ∧
        e = if 2 ≤ values.length then (Error.ofCause cause).within (.value before.length)
          else .ofCause cause := by
  constructor
  · intro results
    rw [resolveBare, resolveEach_eq_ok_iff nonempty]
    simp only [multiply_eq_ok_iff]
  · intro e
    rw [resolveBare, resolveEach_eq_error_iff nonempty]
    simp only [multiply_eq_ok_iff, multiply_eq_error_iff]
    constructor
    · rintro ⟨before, v, after, _, split, passed, ⟨cause, none, rfl⟩, rfl⟩
      exact ⟨before, v, after, cause, split, passed, none, rfl⟩
    · rintro ⟨before, v, after, cause, split, passed, none, rfl⟩
      exact ⟨before, v, after, _, split, passed, ⟨cause, none, rfl⟩, rfl⟩

/-- The least integer has no product with -1, and neither has what follows it. -/
def leastOfSeveral : List Document := [.int 3, .int Int64.minValue, .string "x"]

theorem resolveBare_products_leastOfSeveral :
    leastOfSeveral ≠ [] ∧ [Document.int Int64.minValue] ≠ [] ∧ [Document.int 3, .int 4] ≠ [] ∧
    (math (some (-1))).resolveBare leastOfSeveral =
      .error ((Error.ofCause (.mathOverflow Int64.minValue (-1))).within (.value 1)) ∧
    (math (some (-1))).resolveBare [.int Int64.minValue] =
      .error (.ofCause (.mathOverflow Int64.minValue (-1))) ∧
    (math (some (-1))).resolveBare [.int 3, .int 4] = .ok [.int (-3), .int (-4)] := by
  have several : leastOfSeveral ≠ [] := List.cons_ne_nil _ _
  have alone : [Document.int Int64.minValue] ≠ [] := List.cons_ne_nil _ _
  have small : [Document.int 3, .int 4] ≠ [] := List.cons_ne_nil _ _
  have none : NoProduct (-1) (.int Int64.minValue) (.mathOverflow Int64.minValue (-1)) :=
    .outOfRange (by decide)
  have first : Product (-1) (.int 3) (.int (-3)) := .exactly (by decide)
  have second : Product (-1) (.int 4) (.int (-4)) := .exactly (by decide)
  refine ⟨several, alone, small, ?_, ?_, ?_⟩
  · exact ((resolveBare_products (-1) several).2 _).2 ⟨[.int 3], .int Int64.minValue,
      [.string "x"], _, rfl, by simpa using ⟨_, first⟩, none, rfl⟩
  · exact ((resolveBare_products (-1) alone).2 _).2 ⟨[], _, [], _, rfl, nofun, none, rfl⟩
  · exact ((resolveBare_products (-1) small).1 _).2 (.cons first (.cons second .nil))

end ResourceLoom.Transform
