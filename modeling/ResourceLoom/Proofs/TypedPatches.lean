import ResourceLoom.Proofs.PatchFailures
import ResourceLoom.Proofs.WireRoundTrips
import ResourceLoom.Wire.Codec

/-! # Patches between typed values

A patch between two typed values does what it does between their documents. It fails where a value
has no document, where the patch fails on the documents, and where what it writes is no document of
a value; then both values are as they were. Else the values afterwards are those of the documents
afterwards, and since the decoders undo the encoders, a value whose document is as it was is as it
was, too.
-/
namespace ResourceLoom

variable {α β : Type}

/-- Decoding undoes encoding. -/
def Codec.Lawful (codec : Codec α) : Prop :=
  ∀ value document, codec.encode value = .ok document → codec.decode document = .ok value

theorem Wire.Lossless.lawful_codec {encode : α → Document} {decode : Decoder α}
    (h : Lossless encode decode) : (codec encode decode).Lawful := by
  intro value document encoded
  cases encoded
  simp only [codec, h value]
  rfl

namespace Patch

/-- The documents that two values are encoded as. -/
structure Encodes (composites : Codec α) (composeds : Codec β) (values : α × β)
    (documents : Documents) : Prop where
  composite : composites.encode values.1 = .ok documents.composite
  composed : composeds.encode values.2 = .ok documents.composed

/-- The values that two documents are decoded to. -/
structure Decodes (composites : Codec α) (composeds : Codec β) (documents : Documents)
    (values : α × β) : Prop where
  composite : composites.decode documents.composite = .ok values.1
  composed : composeds.decode documents.composed = .ok values.2

/-- How a patch fails between two values, the first reason first. -/
inductive TypedFailure (composites : Codec α) (composeds : Codec β) (patch : Patch)
    (only : List PatchType) (values : α × β) : Error → Prop where
  | compositeUnencoded {fault : PathError} (refused : composites.encode values.1 = .error fault) :
      TypedFailure composites composeds patch only values (.ofPath fault)
  | composedUnencoded {composite : Document} {fault : PathError}
      (encoded : composites.encode values.1 = .ok composite)
      (refused : composeds.encode values.2 = .error fault) :
      TypedFailure composites composeds patch only values (.ofPath fault)
  | unpatched {documents : Documents} {e : Error}
      (encoded : Encodes composites composeds values documents)
      (failed : (patch.apply only documents).result = .error e) :
      TypedFailure composites composeds patch only values e
  | compositeUndecoded {documents patched : Documents} {fault : PathError}
      (encoded : Encodes composites composeds values documents)
      (applied : patch.apply only documents = .done patched)
      (writes : patch.writesComposite = true)
      (refused : composites.decode patched.composite = .error fault) :
      TypedFailure composites composeds patch only values (.ofPath fault)
  | composedUndecoded {documents patched : Documents} {fault : PathError}
      (encoded : Encodes composites composeds values documents)
      (applied : patch.apply only documents = .done patched)
      (reads : patch.writesComposite = false)
      (refused : composeds.decode patched.composed = .error fault) :
      TypedFailure composites composeds patch only values (.ofPath fault)

variable {composites : Codec α} {composeds : Codec β} {patch : Patch} {only : List PatchType}
  {values after : α × β} {documents patched : Documents} {e : Error}

theorem failure_or_encodes (patch : Patch) (only : List PatchType) (values : α × β) :
    (∃ e, TypedFailure composites composeds patch only values e) ∨
      ∃ documents, Encodes composites composeds values documents := by
  cases first : composites.encode values.1 with
  | error fault => exact .inl ⟨_, .compositeUnencoded first⟩
  | ok composite =>
    cases second : composeds.encode values.2 with
    | error fault => exact .inl ⟨_, .composedUnencoded first second⟩
    | ok composed => exact .inr ⟨⟨composite, composed⟩, first, second⟩

section Encoded

variable (encoded : Encodes composites composeds values documents)
include encoded

theorem applyTyped_of_apply_fail {left : Documents}
    (failed : patch.apply only documents = .fail e left) :
    applyTyped composites composeds patch only values = .fail e values := by
  simp only [applyTyped, encoded.composite, encoded.composed]
  change Outcome.ofExcept values ((patch.apply only documents).toExcept >>= _) = _
  rw [failed]
  rfl

theorem applyTyped_of_writes (applied : patch.apply only documents = .done patched)
    (writes : patch.writesComposite = true) :
    applyTyped composites composeds patch only values = .ofExcept values
      (((composites.decode patched.composite).mapError Error.ofPath).map (·, values.2)) := by
  simp only [applyTyped, encoded.composite, encoded.composed, writes, if_true]
  change Outcome.ofExcept values ((patch.apply only documents).toExcept >>= _) = _
  rw [applied]
  rfl

theorem applyTyped_of_reads (applied : patch.apply only documents = .done patched)
    (reads : patch.writesComposite = false) :
    applyTyped composites composeds patch only values = .ofExcept values
      (((composeds.decode patched.composed).mapError Error.ofPath).map (values.1, ·)) := by
  simp only [applyTyped, encoded.composite, encoded.composed, reads, Bool.false_eq_true, if_false]
  change Outcome.ofExcept values ((patch.apply only documents).toExcept >>= _) = _
  rw [applied]
  rfl

end Encoded

theorem applyTyped_of_failure (h : TypedFailure composites composeds patch only values e) :
    applyTyped composites composeds patch only values = .fail e values := by
  cases h with
  | compositeUnencoded refused =>
    simp only [applyTyped, refused]
    rfl
  | composedUnencoded encoded refused =>
    simp only [applyTyped, encoded, refused]
    rfl
  | unpatched encoded failed =>
    rcases apply_cases patch only _ with ⟨next, done⟩ | ⟨inner, stopped⟩
    · rw [done] at failed
      cases failed
    · rw [stopped] at failed
      cases failed
      exact applyTyped_of_apply_fail encoded stopped
  | compositeUndecoded encoded applied writes refused =>
    rw [applyTyped_of_writes encoded applied writes, refused]
    rfl
  | composedUndecoded encoded applied reads refused =>
    rw [applyTyped_of_reads encoded applied reads, refused]
    rfl

section Lawful

variable (lawfulComposite : composites.Lawful) (lawfulComposed : composeds.Lawful)

include lawfulComposed in
/-- The composed document that is only read decodes to what it was encoded from. -/
theorem Encodes.decode_composed (encoded : Encodes composites composeds values documents)
    (applied : patch.apply only documents = .done patched)
    (writes : patch.writesComposite = true) :
    composeds.decode patched.composed = .ok values.2 := by
  have kept : patch.source patched = patch.source documents := by
    rw [← source_apply patch only documents, applied, Outcome.state_done]
  simp only [source, writes, if_true] at kept
  rw [kept]
  exact lawfulComposed _ _ encoded.composed

include lawfulComposite in
/-- The composite document that is only read decodes to what it was encoded from. -/
theorem Encodes.decode_composite (encoded : Encodes composites composeds values documents)
    (applied : patch.apply only documents = .done patched)
    (reads : patch.writesComposite = false) :
    composites.decode patched.composite = .ok values.1 := by
  have kept : patch.source patched = patch.source documents := by
    rw [← source_apply patch only documents, applied, Outcome.state_done]
  simp only [source, reads, Bool.false_eq_true, if_false] at kept
  rw [kept]
  exact lawfulComposite _ _ encoded.composite

include lawfulComposite lawfulComposed

theorem Encodes.decodes (encoded : Encodes composites composeds values documents) :
    Decodes composites composeds documents values :=
  ⟨lawfulComposite _ _ encoded.composite, lawfulComposed _ _ encoded.composed⟩

/-- Where the patched documents are those of two values, these are the values afterwards. -/
theorem applyTyped_of_decodes (encoded : Encodes composites composeds values documents)
    (applied : patch.apply only documents = .done patched)
    (decoded : Decodes composites composeds patched after) :
    applyTyped composites composeds patch only values = .done after := by
  obtain ⟨composite, composed⟩ := after
  cases direction : patch.writesComposite with
  | true =>
    have kept := encoded.decode_composed lawfulComposed applied direction
    obtain rfl := Except.ok.inj (decoded.composed.symm.trans kept)
    rw [applyTyped_of_writes encoded applied direction, decoded.composite]
    rfl
  | false =>
    have kept := encoded.decode_composite lawfulComposite applied direction
    obtain rfl := Except.ok.inj (decoded.composite.symm.trans kept)
    rw [applyTyped_of_reads encoded applied direction, decoded.composed]
    rfl

theorem failure_or_decodes (patch : Patch) (only : List PatchType) (values : α × β) :
    (∃ e, TypedFailure composites composeds patch only values e) ∨
      ∃ documents patched after, Encodes composites composeds values documents ∧
        patch.apply only documents = .done patched ∧
        Decodes composites composeds patched after := by
  rcases failure_or_encodes patch only values with failure | ⟨documents, encoded⟩
  · exact .inl failure
  rcases apply_cases patch only documents with ⟨patched, applied⟩ | ⟨e, stopped⟩
  · cases direction : patch.writesComposite with
    | true =>
      have kept := encoded.decode_composed lawfulComposed applied direction
      cases back : composites.decode patched.composite with
      | error fault => exact .inl ⟨_, .compositeUndecoded encoded applied direction back⟩
      | ok a => exact .inr ⟨documents, patched, (a, values.2), encoded, applied, back, kept⟩
    | false =>
      have kept := encoded.decode_composite lawfulComposite applied direction
      cases back : composeds.decode patched.composed with
      | error fault => exact .inl ⟨_, .composedUndecoded encoded applied direction back⟩
      | ok b => exact .inr ⟨documents, patched, (values.1, b), encoded, applied, kept, back⟩
  · exact .inl ⟨e, .unpatched encoded (congrArg Outcome.result stopped)⟩

theorem applyTyped_eq_done_iff : applyTyped composites composeds patch only values = .done after ↔
    ∃ documents patched, Encodes composites composeds values documents ∧
      patch.apply only documents = .done patched ∧ Decodes composites composeds patched after := by
  constructor
  · intro done
    rcases failure_or_decodes lawfulComposite lawfulComposed patch only values with
      ⟨e, failure⟩ | ⟨documents, patched, found, encoded, applied, decoded⟩
    · have failed := applyTyped_of_failure failure
      cases done.symm.trans failed
    · have same := applyTyped_of_decodes lawfulComposite lawfulComposed encoded applied decoded
      obtain rfl : after = found := congrArg Outcome.state (done.symm.trans same)
      exact ⟨documents, patched, encoded, applied, decoded⟩
  · rintro ⟨documents, patched, encoded, applied, decoded⟩
    exact applyTyped_of_decodes lawfulComposite lawfulComposed encoded applied decoded

theorem applyTyped_error_iff :
    (applyTyped composites composeds patch only values).result = .error e ↔
      TypedFailure composites composeds patch only values e := by
  refine ⟨fun failed => ?_, fun failure => congrArg Outcome.result (applyTyped_of_failure failure)⟩
  rcases failure_or_decodes lawfulComposite lawfulComposed patch only values with
    ⟨inner, failure⟩ | ⟨documents, patched, found, encoded, applied, decoded⟩
  · rw [applyTyped_of_failure failure] at failed
    cases failed
    exact failure
  · rw [applyTyped_of_decodes lawfulComposite lawfulComposed encoded applied decoded] at failed
    cases failed

theorem applyTyped_state_of_error
    (failed : (applyTyped composites composeds patch only values).result = .error e) :
    (applyTyped composites composeds patch only values).state = values := by
  rw [applyTyped_of_failure ((applyTyped_error_iff lawfulComposite lawfulComposed).1 failed),
    Outcome.state_fail]

/-- The value that the patch does not write to stays. -/
theorem applyTyped_keeps (done : applyTyped composites composeds patch only values = .done after) :
    (patch.writesComposite = true → after.2 = values.2) ∧
      (patch.writesComposite = false → after.1 = values.1) := by
  obtain ⟨documents, patched, encoded, applied, decoded⟩ :=
    (applyTyped_eq_done_iff lawfulComposite lawfulComposed).1 done
  constructor
  · intro writes
    have kept := encoded.decode_composed lawfulComposed applied writes
    exact Except.ok.inj (decoded.composed.symm.trans kept)
  · intro reads
    have kept := encoded.decode_composite lawfulComposite applied reads
    exact Except.ok.inj (decoded.composite.symm.trans kept)

/-- A patch that leaves the documents leaves the values. -/
theorem applyTyped_of_apply_done_self (encoded : Encodes composites composeds values documents)
    (same : patch.apply only documents = .done documents) :
    applyTyped composites composeds patch only values = .done values :=
  applyTyped_of_decodes lawfulComposite lawfulComposed encoded same
    (encoded.decodes lawfulComposite lawfulComposed)

theorem applyTyped_state_of_not_selected (filtered : patch.selected only = false) :
    (applyTyped composites composeds patch only values).state = values := by
  rcases failure_or_decodes lawfulComposite lawfulComposed patch only values with
    ⟨e, failure⟩ | ⟨documents, patched, found, encoded, -, -⟩
  · rw [applyTyped_of_failure failure, Outcome.state_fail]
  · rw [applyTyped_of_apply_done_self lawfulComposite lawfulComposed encoded
      (apply_of_not_selected filtered documents), Outcome.state_done]

theorem applyTyped_state_of_firstAbsent {paths : List String}
    (encoded : Encodes composites composeds values documents)
    (sources : patch.sources? = some paths)
    (absent : FirstAbsent (patch.source documents) paths) :
    (applyTyped composites composeds patch only values).state = values := by
  have same : (patch.apply only documents).state = documents :=
    apply_state_of_firstAbsent sources absent
  rcases apply_cases patch only documents with ⟨next, done⟩ | ⟨e, stopped⟩
  · rw [done, Outcome.state_done] at same
    rw [same] at done
    rw [applyTyped_of_apply_done_self lawfulComposite lawfulComposed encoded done,
      Outcome.state_done]
  · rw [applyTyped_of_apply_fail encoded stopped, Outcome.state_fail]

end Lawful

/-- With lawful codecs a patch between two values is the patch between their documents: it fails as
that does, or at an encoding or a decoding, and then changes neither value. Else it leaves the values
of the patched documents, and thus the one it reads as it was, and both where the patch is not
selected or its source is absent. -/
theorem applyTyped_simulates (lawfulComposite : composites.Lawful)
    (lawfulComposed : composeds.Lawful) (patch : Patch) (only : List PatchType) (values : α × β) :
    (∀ e, (applyTyped composites composeds patch only values).result = .error e ↔
      TypedFailure composites composeds patch only values e) ∧
    (∀ e, (applyTyped composites composeds patch only values).result = .error e →
      (applyTyped composites composeds patch only values).state = values) ∧
    (∀ after, applyTyped composites composeds patch only values = .done after ↔
      ∃ documents patched, Encodes composites composeds values documents ∧
        patch.apply only documents = .done patched ∧
        Decodes composites composeds patched after) ∧
    (∀ after, applyTyped composites composeds patch only values = .done after →
      (patch.writesComposite = true → after.2 = values.2) ∧
      (patch.writesComposite = false → after.1 = values.1)) ∧
    (patch.selected only = false →
      (applyTyped composites composeds patch only values).state = values ∧
      ∀ documents, Encodes composites composeds values documents →
        applyTyped composites composeds patch only values = .done values) ∧
    ∀ documents paths, Encodes composites composeds values documents →
      patch.sources? = some paths → FirstAbsent (patch.source documents) paths →
      (applyTyped composites composeds patch only values).state = values ∧
      ∀ target, patch.target? = some target →
        applyTyped composites composeds patch only values = .done values := by
  refine ⟨fun e => applyTyped_error_iff lawfulComposite lawfulComposed,
    fun e => applyTyped_state_of_error lawfulComposite lawfulComposed,
    fun after => applyTyped_eq_done_iff lawfulComposite lawfulComposed,
    fun after => applyTyped_keeps lawfulComposite lawfulComposed, fun filtered => ?_,
    fun documents paths encoded sources absent => ?_⟩
  · refine ⟨applyTyped_state_of_not_selected lawfulComposite lawfulComposed filtered, ?_⟩
    intro documents encoded
    exact applyTyped_of_apply_done_self lawfulComposite lawfulComposed encoded
      (apply_of_not_selected filtered documents)
  · refine ⟨applyTyped_state_of_firstAbsent lawfulComposite lawfulComposed encoded sources absent,
      fun target given => ?_⟩
    exact applyTyped_of_apply_done_self lawfulComposite lawfulComposed encoded
      (apply_of_firstAbsent sources given absent only)

/-- Documents as they stand. -/
def untyped : Codec Document := Wire.codec id Wire.document

def references : Codec TypeReference := Wire.codec Wire.encodeTypeReference Wire.typeReference

def sizedBucket : Document :=
  .ofEntries [("spec", .ofEntries [("kind", .string "Bucket"), ("size", .int 3)])]

/-- Writes a field of the composite as the kind of a reference. -/
def kindFrom (path : String) : Patch := { fromComposite path with toFieldPath := some "kind" }

/-- A text is read back as the kind, a number is refused, and without a name nothing changes. -/
theorem applyTyped_simulates_kinds :
    applyTyped untyped references (kindFrom "spec.kind") [] (sizedBucket, ⟨"v1", "Blob"⟩) =
      .done (sizedBucket, ⟨"v1", "Bucket"⟩) ∧
    (applyTyped untyped references (kindFrom "spec.size") [] (sizedBucket, ⟨"v1", "Blob"⟩)).result =
      .error (.ofPath .conversion) ∧
    applyTyped untyped references (kindFrom "spec.name") [] (sizedBucket, ⟨"v1", "Blob"⟩) =
      .done (sizedBucket, ⟨"v1", "Blob"⟩) := by
  have simulates := applyTyped_simulates (Wire.lossless_document.lawful_codec : untyped.Lawful)
    (Wire.lossless_typeReference.lawful_codec : references.Lawful)
  have encoded : Encodes untyped references (sizedBucket, ⟨"v1", "Blob"⟩)
      ⟨sizedBucket, Wire.encodeTypeReference ⟨"v1", "Blob"⟩⟩ := ⟨rfl, rfl⟩
  refine ⟨?_, ?_, ?_⟩
  · obtain ⟨-, -, succeeds, -⟩ :=
      simulates (kindFrom "spec.kind") [] (sizedBucket, ⟨"v1", "Blob"⟩)
    exact (succeeds _).2 ⟨_, ⟨sizedBucket, Wire.encodeTypeReference ⟨"v1", "Bucket"⟩⟩, encoded,
      rfl, rfl, rfl⟩
  · obtain ⟨fails, -⟩ := simulates (kindFrom "spec.size") [] (sizedBucket, ⟨"v1", "Blob"⟩)
    exact (fails _).2 (.composedUndecoded encoded rfl rfl rfl)
  · obtain ⟨-, -, -, -, -, absent⟩ :=
      simulates (kindFrom "spec.name") [] (sizedBucket, ⟨"v1", "Blob"⟩)
    have missing : FirstAbsent sizedBucket ["spec.name"] := ⟨[], _, [], rfl, nofun, rfl⟩
    exact (absent _ ["spec.name"] encoded rfl missing).2 "kind" rfl

end Patch
end ResourceLoom
