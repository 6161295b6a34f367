import ResourceLoom.Proofs.LookupOutcomes
import ResourceLoom.Proofs.RenderWrites

/-! # What the metadata stage reads

The metadata stage reads texts of the composite, at its top, in its metadata and in its labels. An
absent text is passed over, and so is a value that is no text. Only a value on the way there can
stop the stage, and so one condition on the shape of the composite decides for all that is read.
-/
namespace ResourceLoom.Render

/-- The text that a document has at a path; none where there is no value or one that is no text. -/
def carried (x : Document) (path : Path) : Option String :=
  match x.get path with
  | .ok (.string text) => some text
  | _ => none

section Texts

variable {x : Document} {text : String} {found : Option String} {path : Path}

theorem carried_eq_some_iff : carried x path = some text ↔ x.get path = .ok (.string text) := by
  unfold carried
  split
  · next read => simp [read]
  · next noText => simpa using noText text

theorem carried_eq_reach (x : Document) (path : Path) :
    carried x path = (x.reach path).bind Document.asString? := by
  refine Option.ext fun text => ?_
  rw [carried_eq_some_iff, Document.get_eq_ok_iff, Option.bind_eq_some_iff]
  constructor
  · exact fun reached => ⟨_, reached, rfl⟩
  · rintro ⟨v, reached, isText⟩
    cases v <;> cases isText
    exact reached

theorem textAt_eq_ok_iff :
    textAt x path = .ok found ↔ x.Readable path ∧ found = carried x path := by
  have looked := @Document.find_eq_ok_iff x path
  cases answer : x.find path with
  | ok v =>
    obtain ⟨readable, rfl⟩ := looked.1 answer
    simp [textAt, answer, readable, carried_eq_reach, eq_comm]
  | error e =>
    have unreadable : ¬ x.Readable path := fun readable => by
      simpa [answer] using looked.2 ⟨readable, rfl⟩
    simp [textAt, answer, unreadable]

theorem textAt_of_readable (h : x.Readable path) : textAt x path = .ok (carried x path) :=
  textAt_eq_ok_iff.2 ⟨h, rfl⟩

end Texts

/-- The composite is an object, and its metadata and labels are objects or absent. -/
structure WellShaped (composite : Document) : Prop where
  object : composite.isObject = true
  metadata : ∀ v, composite.get (fieldPath ["metadata"]) = .ok v → v.isObject = true
  labels : ∀ v, composite.get (fieldPath ["metadata", "labels"]) = .ok v → v.isObject = true

variable {composite x : Document} {a b key : String}

theorem readable_labelPath_iff : composite.Readable (labelPath key) ↔ WellShaped composite := by
  have accepts (x : Document) (name : String) : x.isObject = true ↔ x.Accepts (.field name) :=
    Document.isObject_iff_accepts name
  have metadata_iff (m : Document) : composite.get (fieldPath ["metadata"]) = .ok m ↔
      composite.child? (.field "metadata") = some m := by
    simp [Document.get_eq_ok_iff, fieldPath, Document.reach_singleton]
  have labels_iff (l : Document) : composite.get (fieldPath ["metadata", "labels"]) = .ok l ↔
      ∃ m, composite.child? (.field "metadata") = some m ∧ m.child? (.field "labels") = some l := by
    simp [Document.get_eq_ok_iff, fieldPath, Document.reach, Option.bind_eq_some_iff]
  constructor
  · rintro ⟨object, below⟩
    refine ⟨(accepts _ _).2 object, fun m read => ?_, fun l read => ?_⟩
    · exact (accepts _ _).2 (below m ((metadata_iff m).1 read)).1
    · obtain ⟨m, found, inner⟩ := (labels_iff l).1 read
      exact (accepts _ _).2 ((below m found).2 l inner).1
  · rintro ⟨object, metadata, labels⟩
    refine ⟨(accepts _ _).1 object, fun m found => ?_⟩
    refine ⟨(accepts _ _).1 (metadata m ((metadata_iff m).2 found)), fun l inner => ?_⟩
    have labelled : l.isObject = true := labels l ((labels_iff l).2 ⟨m, found, inner⟩)
    exact ⟨(accepts _ _).1 labelled, fun _ _ => trivial⟩

/-- Where one field of the metadata can be read, so can the others. -/
theorem readable_beside (h : x.Readable (fieldPath [a, b])) (c : String) :
    x.Readable (fieldPath [a, c]) :=
  Document.Readable.beside (p := fieldPath [a]) h (Segment.alike_field b c)

/-- Where the field of a field can be read, so can those of the document. -/
theorem readable_above (h : x.Readable (fieldPath [a, b])) (c : String) :
    x.Readable (fieldPath [c]) :=
  Document.Readable.beside (p := []) (Document.Readable.of_append (q := fieldPath [b]) h)
    (Segment.alike_field a c)

theorem WellShaped.readable (h : WellShaped composite) (name : String) :
    composite.Readable (fieldPath ["metadata", name]) := by
  have labels : composite.Readable (labelPath compositeLabel) := readable_labelPath_iff.2 h
  exact readable_beside (Document.Readable.of_append (p := fieldPath ["metadata", "labels"]) labels)
    name

def uidPath : Path := fieldPath ["metadata", "uid"]

/-- The reference that makes the composite a controller under the identifier. -/
def controllerOf (composite : Document) (uid : String) : Document :=
  .ofEntries [
    ("apiVersion", .string ((carried composite (fieldPath ["apiVersion"])).getD "")),
    ("kind", .string ((carried composite (fieldPath ["kind"])).getD "")),
    ("name", .string ((carried composite namePath).getD "")),
    ("uid", .string uid),
    ("controller", .bool true),
    ("blockOwnerDeletion", .bool true)]

theorem controllerReference_of_readable (h : composite.Readable uidPath) (uid : String) :
    controllerReference composite uid = .ok (controllerOf composite uid) := by
  have named : composite.Readable namePath := readable_beside h "name"
  rw [controllerReference, textAt_of_readable (readable_above h "apiVersion"),
    textAt_of_readable (readable_above h "kind"), textAt_of_readable named]
  rfl

@[simp] theorem isController_controllerOf (composite : Document) (uid : String) :
    isController (controllerOf composite uid) = true := by
  simp [isController, controllerOf, Document.field?, Document.ofEntries, Fields.ofList,
    Fields.find?_insert_of_ne, Document.asBool?]

@[simp] theorem textField_uid_controllerOf (composite : Document) (uid : String) :
    (controllerOf composite uid).textField "uid" = uid := by
  simp [controllerOf, Document.textField, Document.field?, Document.ofEntries, Fields.ofList,
    Fields.find?_insert_of_ne, Document.asString?]

end ResourceLoom.Render
