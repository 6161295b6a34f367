import ResourceLoom.Proofs.PatchAtomicity
import ResourceLoom.Proofs.WriteSequences

/-! # Patches as sequences of writes

What a patch writes and where is worked out from its source alone. The destination only decides
whether the write is admitted, and all objects admit the same ones. A run of patches that read the
composite therefore makes the same writes on every composed object.
-/
namespace ResourceLoom

namespace Document

variable {x y v : Document} {path : Path} {text : String}

theorem isObject_iff_accepts (name : String) : x.isObject = true ↔ x.Accepts (.field name) := by
  cases x <;> simp [isObject, Accepts]

theorem isObject_put (name : String) (rest : Path) (v : Document) :
    (x.put (.field name :: rest) v).isObject = true := rfl

/-- A path that can be written in one object can be written in all of them. -/
theorem writable_of_objects (hx : x.isObject = true) (hy : y.isObject = true)
    (h : x.Writable path) : y.Writable path ∧ ∀ v, (y.put path v).isObject = true := by
  obtain ⟨nonempty, bounded, root⟩ := h
  cases path with
  | nil => exact absurd rfl nonempty
  | cons s rest =>
    cases s with
    | field name =>
      exact ⟨⟨nonempty, bounded, (isObject_iff_accepts name).1 hy⟩, isObject_put name rest⟩
    | index i =>
      cases x with
      | object fields => exact root.elim
      | _ => cases hx

theorem write_of_parse (parsed : Path.parse text = .ok path) (x v : Document) :
    x.write text v = x.set path v := by
  rw [write, parsed]

theorem exists_of_write_ok (ok : (x.write text v).result = .ok ()) :
    ∃ path, Path.parse text = .ok path ∧ x.Writable path := by
  cases parsed : Path.parse text with
  | error e =>
    rw [write, parsed] at ok
    cases ok
  | ok path =>
    rw [write_of_parse parsed] at ok
    exact ⟨path, rfl, set_ok_iff.1 ok⟩

/-- A write at the path that a text names succeeds on all objects when it does on one. -/
theorem write_of_objects (hx : x.isObject = true) (ok : (x.write text v).result = .ok ()) :
    ∃ path, ∀ y : Document, y.isObject = true →
      y.write text v = .done (y.put path v) ∧ (y.put path v).isObject = true := by
  obtain ⟨path, parsed, writable⟩ := exists_of_write_ok ok
  refine ⟨path, fun y hy => ?_⟩
  obtain ⟨admitted, kept⟩ := writable_of_objects hx hy writable
  rw [write_of_parse parsed]
  exact ⟨set_of_writable admitted v, kept v⟩

end Document

namespace Patch

variable {patch : Patch} {only : List PatchType} {composite x : Document}

theorem carryOut_of_objects {plan : Except Error (Option (String × Document))}
    (hx : x.isObject = true) (ok : (carryOut x plan).result = .ok ()) :
    ∃ writes, ∀ y : Document, y.isObject = true →
      carryOut y plan = .done (y.putAll writes) ∧ (y.putAll writes).isObject = true := by
  cases plan with
  | error e => cases ok
  | ok write =>
    cases write with
    | none => exact ⟨[], fun y hy => ⟨rfl, hy⟩⟩
    | some write =>
      obtain ⟨text, v⟩ := write
      obtain ⟨path, h⟩ := Document.write_of_objects hx (Outcome.ok_of_mapError_ok ok)
      refine ⟨[(path, v)], fun y hy => ⟨?_, (h y hy).2⟩⟩
      rw [carryOut, (h y hy).1, Outcome.mapError_done]
      rfl

/-- A patch reads the composite and writes to the composed document. -/
def ReadsComposite (patch : Patch) : Prop :=
  patch.type = .fromComposite ∨ patch.type = .fromMultiple

theorem ReadsComposite.writesComposite (h : patch.ReadsComposite) :
    patch.writesComposite = false := by
  rcases h with h | h <;> simp [Patch.writesComposite, h]

/-- What a selected patch that reads the composite does is decided by its plan alone. -/
theorem apply_of_readsComposite (chosen : patch.selected only = true)
    (reads : patch.ReadsComposite) (composite x : Document) :
    patch.apply only ⟨composite, x⟩ =
      (carryOut x (patch.plan composite)).onState fun composed => ⟨composite, composed⟩ := by
  have composed := reads.writesComposite
  simp only [apply_of_selected chosen, source, destination, composed, Bool.false_eq_true, if_false,
    withDestination_of_composed composed]

theorem apply_of_objects (reads : patch.selected only = true → patch.ReadsComposite)
    (hx : x.isObject = true) (ok : (patch.apply only ⟨composite, x⟩).result = .ok ()) :
    ∃ writes, ∀ y : Document, y.isObject = true →
      patch.apply only ⟨composite, y⟩ = .done ⟨composite, y.putAll writes⟩ ∧
        (y.putAll writes).isObject = true := by
  cases chosen : patch.selected only with
  | false => exact ⟨[], fun y hy => ⟨apply_of_not_selected chosen _, hy⟩⟩
  | true =>
    rw [apply_of_readsComposite chosen (reads chosen)] at ok
    obtain ⟨writes, h⟩ := carryOut_of_objects hx ok
    refine ⟨writes, fun y hy => ⟨?_, (h y hy).2⟩⟩
    rw [apply_of_readsComposite chosen (reads chosen), (h y hy).1, Outcome.onState_done]

/-- A run of patches that read the composite makes the same writes on all objects. -/
theorem applyFrom_of_objects {patches : List Patch} {index : Nat}
    (reads : ∀ patch ∈ patches, patch.selected only = true → patch.ReadsComposite)
    (hx : x.isObject = true) (ok : (applyFrom only index patches ⟨composite, x⟩).result = .ok ()) :
    ∃ writes, ∀ y : Document, y.isObject = true →
      applyFrom only index patches ⟨composite, y⟩ = .done ⟨composite, y.putAll writes⟩ := by
  -- Each patch starts from the document and the position that the one before it leaves.
  induction patches generalizing x index with
  | nil => exact ⟨[], fun y _ => rfl⟩
  | cons patch rest ih =>
    obtain ⟨readsFirst, readsRest⟩ := List.forall_mem_cons.1 reads
    obtain ⟨applied, okRest⟩ := Outcome.ok_of_andThen_ok ok
    have okFirst : (patch.apply only ⟨composite, x⟩).result = .ok () :=
      Outcome.ok_of_mapError_ok (congrArg Outcome.result applied)
    obtain ⟨first, hfirst⟩ := apply_of_objects readsFirst hx okFirst
    obtain ⟨written, kept⟩ := hfirst x hx
    rw [written] at okRest
    obtain ⟨second, hsecond⟩ := ih readsRest kept okRest
    refine ⟨first ++ second, fun y hy => ?_⟩
    obtain ⟨again, object⟩ := hfirst y hy
    rw [applyFrom, again, Outcome.mapError_done, Outcome.andThen_done, hsecond _ object,
      Document.putAll_append]

end Patch
end ResourceLoom
