import ResourceLoom.Proofs.PatchFailures
import ResourceLoom.Proofs.PatchWrites

/-! # Patches that are applied again

A reconciliation applies its patches over and over. What a patch writes depends on its source, which
it leaves alone, so the second application makes the write of the first one at the same place and
changes nothing. An application that fails has changed nothing either and fails again, so that the
outcome is the same whatever it is.
-/
namespace ResourceLoom

/-- Writing a value where it has just been written, or refused, has the same outcome. -/
theorem Document.write_again (x : Document) (text : String) (v : Document) :
    (x.write text v).state.write text v = x.write text v := by
  cases parsed : Path.parse text with
  | error fault => simp only [write, parsed, Outcome.state_fail]
  | ok path =>
    simp only [write_of_parse parsed]
    rcases x.writable_or_refuses path with writable | ⟨fault, refused⟩
    · have again : (x.put path v).Writable path :=
        ⟨writable.nonempty, writable.bounded, acceptsPath_put x path v⟩
      rw [set_of_writable writable, Outcome.state_done, set_of_writable again, put_put]
    · rw [set_of_refuses refused, Outcome.state_fail, set_of_refuses refused]

namespace Patch

variable {patch : Patch} {only : List PatchType} {documents : Documents}

theorem carryOut_again (target : Document) (plan : Except Error (Option (String × Document))) :
    carryOut (carryOut target plan).state plan = carryOut target plan := by
  cases plan with
  | error e => rfl
  | ok write =>
    cases write with
    | none => rfl
    | some write =>
      obtain ⟨text, v⟩ := write
      have again := congrArg (Outcome.mapError Error.ofPath) (Document.write_again target text v)
      exact again

theorem withDestination_withDestination (first second : Document) :
    patch.withDestination (patch.withDestination documents first) second =
      patch.withDestination documents second := by
  cases h : patch.writesComposite <;> simp [withDestination, h]

/-- A patch applied to what it has left has the same outcome again. -/
theorem apply_again (patch : Patch) (only : List PatchType) (documents : Documents) :
    patch.apply only (patch.apply only documents).state = patch.apply only documents := by
  cases chosen : patch.selected only with
  | false =>
    have unchanged := apply_of_not_selected chosen documents
    rw [unchanged, Outcome.state_done, unchanged]
  | true =>
    -- The source is the one of the first application, and with it the plan.
    have planned : patch.source (patch.apply only documents).state = patch.source documents :=
      source_apply patch only documents
    rw [apply_of_selected chosen (patch.apply only documents).state, planned,
      apply_of_selected chosen documents]
    have carried := carryOut_again (patch.destination documents)
      (patch.plan (patch.source documents))
    simp only [Outcome.onState, destination_withDestination, carried,
      withDestination_withDestination]

/-- Applying a patch once more, and any number of times more, succeeds after a success and changes
neither document. -/
theorem apply_does_not_accumulate (ok : (patch.apply only documents).result = .ok ()) :
    patch.apply only (patch.apply only documents).state =
        .done (patch.apply only documents).state ∧
      ∀ times index, applyFrom only index (List.replicate times patch)
        (patch.apply only documents).state = .done (patch.apply only documents).state := by
  have once : patch.apply only (patch.apply only documents).state =
      .done (patch.apply only documents).state :=
    (apply_again patch only documents).trans (Outcome.eq_done_of_ok ok)
  refine ⟨once, fun times => ?_⟩
  induction times with
  | zero => exact fun index => rfl
  | succ times ih =>
    intro index
    rw [List.replicate_succ, applyFrom_of_apply_done once, ih]

/-- A patch that appends to a name and writes it behind the end of an array. -/
def suffixedName : Patch :=
  { fromComposite "name" with toFieldPath := some "names[2]", transforms := [.string "%s-db"] }

/-- Where the array has to stand, the composed document has a text. -/
def nameDocuments : Documents where
  composite := .object [("name", .string "site")]
  composed := .object [("names", .string "none")]

theorem apply_does_not_accumulate_suffixedName :
    (suffixedName.apply [.fromComposite] nameDocuments).result = .ok () ∧
      suffixedName.apply [.fromComposite]
          (suffixedName.apply [.fromComposite] nameDocuments).state =
        .done (suffixedName.apply [.fromComposite] nameDocuments).state := by
  have ok : (suffixedName.apply [.fromComposite] nameDocuments).result = .ok () := rfl
  exact ⟨ok, (apply_does_not_accumulate ok).1⟩

end Patch
end ResourceLoom
