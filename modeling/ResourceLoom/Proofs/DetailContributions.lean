import Mathlib.Data.List.ReduceOption
import ResourceLoom.Connection
import ResourceLoom.Proofs.FieldInsertion
import ResourceLoom.Proofs.FirstElements
import ResourceLoom.Proofs.LookupOutcomes

/-! # What connection details contribute

A connection detail contributes bytes under a name, or nothing where what it asks for is absent, or
it is refused. The three cases are described here by the fields of the detail that its type reads,
and a list of details is shown to come down to them: either each detail yields its contribution, and
these are inserted in their order, or the first one that is refused is named.
-/
namespace ResourceLoom.ConnectionDetail

/-- The detail asks for the entry of the secret under a key. A key that stands beside another type
is not asked for. -/
def AsksFor (detail : ConnectionDetail) (key : String) : Prop :=
  detail.effectiveType = .fromSecretKey ∧ detail.fromConnectionSecretKey = some key

/-- The detail publishes under a name what stands where a text says. -/
structure ReadsField (detail : ConnectionDetail) (name text : String) : Prop where
  type : detail.effectiveType = .fromFieldPath
  given : detail.fromFieldPath = some text
  named : detail.name = some name

/-- What a detail contributes: its own value, an entry of the secret, or a field of the document. -/
inductive Contributes (detail : ConnectionDetail) (composed : Document) (secret : Secret) :
    String → List UInt8 → Prop where
  | value {name value : String} (type : detail.effectiveType = .value)
      (named : detail.name = some name) (given : detail.value = some value) :
      Contributes detail composed secret name (Text.utf8Bytes value)
  | secretEntry {key : String} {bytes : List UInt8} (asked : detail.AsksFor key)
      (held : Fields.find? key secret = some bytes) :
      Contributes detail composed secret (detail.name.getD key) bytes
  | field {name text : String} {w : Document} (reads : detail.ReadsField name text)
      (held : composed.Holds text w) : Contributes detail composed secret name (bytesOf w)

/-- What the detail asks for is not there. -/
inductive Absent (detail : ConnectionDetail) (composed : Document) (secret : Secret) : Prop where
  | secretKey {key : String} (asked : detail.AsksFor key)
      (missing : Fields.find? key secret = none)
  | field {name text : String} (reads : detail.ReadsField name text)
      (missed : composed.Misses text)

/-- The field is the first that the type of the detail requires and that the detail does not have. -/
inductive Lacks (detail : ConnectionDetail) : String → Prop where
  | valueName (type : detail.effectiveType = .value) (unset : detail.name = none) :
      Lacks detail "name"
  | value {name : String} (type : detail.effectiveType = .value) (named : detail.name = some name)
      (unset : detail.value = none) : Lacks detail "value"
  | secretKey (type : detail.effectiveType = .fromSecretKey)
      (unset : detail.fromConnectionSecretKey = none) : Lacks detail "fromConnectionSecretKey"
  | fieldPath (type : detail.effectiveType = .fromFieldPath)
      (unset : detail.fromFieldPath = none) : Lacks detail "fromFieldPath"
  | fieldName {text : String} (type : detail.effectiveType = .fromFieldPath)
      (given : detail.fromFieldPath = some text) (unset : detail.name = none) : Lacks detail "name"

/-- Why a detail is refused. -/
inductive Refused (detail : ConnectionDetail) (composed : Document) : Cause → Prop where
  | incomplete {field : String} (lacks : detail.Lacks field) :
      Refused detail composed (.requiredField field detail.effectiveType.name)
  | barred {name text : String} {fault : PathError} (reads : detail.ReadsField name text)
      (bars : composed.Bars text fault) : Refused detail composed (.path fault)

variable {detail : ConnectionDetail} {composed : Document} {secret : Secret} {name : String}
  {bytes : List UInt8} {cause : Cause} {e : Error}

theorem extract_of_asksFor {key : String} (asked : detail.AsksFor key) (composed : Document)
    (secret : Secret) : detail.extract composed secret =
      .ok ((Fields.find? key secret).map fun bytes => (detail.name.getD key, bytes)) := by
  obtain ⟨type, given⟩ := asked
  rw [extract, type, given]
  rfl

theorem extract_of_readsField {text : String} (reads : detail.ReadsField name text)
    (composed : Document) (secret : Secret) : detail.extract composed secret =
      match composed.lookup text with
      | .ok found => .ok (found.map fun w => (name, bytesOf w))
      | .error fault => .error (.ofPath fault) := by
  obtain ⟨type, given, named⟩ := reads
  rw [extract, type, given, named]
  rfl

theorem extract_of_contributes (h : detail.Contributes composed secret name bytes) :
    detail.extract composed secret = .ok (some (name, bytes)) := by
  cases h with
  | value type named given =>
    rw [extract, type, named, given]
    rfl
  | secretEntry asked held => rw [extract_of_asksFor asked, held, Option.map_some]
  | field reads held =>
    rw [extract_of_readsField reads, Document.lookup_of_holds held]
    rfl

theorem extract_of_absent (h : detail.Absent composed secret) :
    detail.extract composed secret = .ok none := by
  cases h with
  | secretKey asked missing => rw [extract_of_asksFor asked, missing, Option.map_none]
  | field reads missed =>
    rw [extract_of_readsField reads, Document.lookup_of_misses missed]
    rfl

theorem extract_of_lacks {field : String} (h : detail.Lacks field) (composed : Document)
    (secret : Secret) : detail.extract composed secret =
      .error (.ofCause (.requiredField field detail.effectiveType.name)) := by
  cases h with
  | valueName type unset => simp only [extract, type, unset, required, bind, Except.bind]
  | value type named unset => simp only [extract, type, named, unset, required, bind, Except.bind]
  | secretKey type unset => simp only [extract, type, unset, required, bind, Except.bind]
  | fieldPath type unset => simp only [extract, type, unset, required, bind, Except.bind]
  | fieldName type given unset =>
    simp only [extract, type, given, unset, required, bind, Except.bind]

theorem extract_of_refused (h : detail.Refused composed cause) :
    detail.extract composed secret = .error (.ofCause cause) := by
  cases h with
  | incomplete lacks => exact extract_of_lacks lacks composed secret
  | barred reads bars =>
    rw [extract_of_readsField reads, Document.lookup_of_bars bars]
    rfl

theorem contributes_or_absent_or_refused (detail : ConnectionDetail) (composed : Document)
    (secret : Secret) : (∃ name bytes, detail.Contributes composed secret name bytes) ∨
      detail.Absent composed secret ∨ ∃ cause, detail.Refused composed cause := by
  cases type : detail.effectiveType with
  | value =>
    cases named : detail.name with
    | none => exact .inr (.inr ⟨_, .incomplete (.valueName type named)⟩)
    | some name =>
      cases given : detail.value with
      | none => exact .inr (.inr ⟨_, .incomplete (.value type named given)⟩)
      | some value => exact .inl ⟨name, _, .value type named given⟩
  | fromSecretKey =>
    cases given : detail.fromConnectionSecretKey with
    | none => exact .inr (.inr ⟨_, .incomplete (.secretKey type given)⟩)
    | some key =>
      cases held : Fields.find? key secret with
      | none => exact .inr (.inl (.secretKey ⟨type, given⟩ held))
      | some bytes => exact .inl ⟨_, bytes, .secretEntry ⟨type, given⟩ held⟩
  | fromFieldPath =>
    cases given : detail.fromFieldPath with
    | none => exact .inr (.inr ⟨_, .incomplete (.fieldPath type given)⟩)
    | some text =>
      cases named : detail.name with
      | none => exact .inr (.inr ⟨_, .incomplete (.fieldName type given named)⟩)
      | some name =>
        rcases composed.holds_or_misses_or_bars text with ⟨w, held⟩ | missed | ⟨fault, bars⟩
        · exact .inl ⟨name, _, .field ⟨type, given, named⟩ held⟩
        · exact .inr (.inl (.field ⟨type, given, named⟩ missed))
        · exact .inr (.inr ⟨_, .barred ⟨type, given, named⟩ bars⟩)

theorem extract_eq_some_iff : detail.extract composed secret = .ok (some (name, bytes)) ↔
    detail.Contributes composed secret name bytes := by
  refine ⟨fun h => ?_, extract_of_contributes⟩
  rcases detail.contributes_or_absent_or_refused composed secret with
    ⟨other, found, contributes⟩ | absent | ⟨cause, refused⟩
  · rw [extract_of_contributes contributes] at h
    cases h
    exact contributes
  · rw [extract_of_absent absent] at h
    cases h
  · rw [extract_of_refused refused] at h
    cases h

theorem refused_of_extract (h : detail.extract composed secret = .error e) :
    ∃ cause, detail.Refused composed cause ∧ e = .ofCause cause := by
  rcases detail.contributes_or_absent_or_refused composed secret with
    ⟨other, found, contributes⟩ | absent | ⟨cause, refused⟩
  · rw [extract_of_contributes contributes] at h
    cases h
  · rw [extract_of_absent absent] at h
    cases h
  · rw [extract_of_refused refused] at h
    cases h
    exact ⟨cause, refused, rfl⟩

section Lists

variable {details before after rest : List ConnectionDetail}
  {found more : List (Option (String × List UInt8))} {published out : Secret} {index : Nat}

/-- What each detail contributes, in their order. -/
def Yields (composed : Document) (secret : Secret) (details : List ConnectionDetail)
    (found : List (Option (String × List UInt8))) : Prop :=
  details.map (·.extract composed secret) = found.map .ok

theorem Yields.append (h : Yields composed secret before found)
    (h' : Yields composed secret after more) :
    Yields composed secret (before ++ after) (found ++ more) := by
  rw [Yields, List.map_append, List.map_append, h, h']

theorem Yields.uncons (h : Yields composed secret (detail :: rest) found) :
    ∃ entry more, found = entry :: more ∧ detail.extract composed secret = .ok entry ∧
      Yields composed secret rest more := by
  obtain ⟨entry, more, rfl, made, others⟩ := List.map_eq_cons_iff.1 h.symm
  exact ⟨entry, more, rfl, made.symm, others.symm⟩

theorem Yields.mem {entry : Option (String × List UInt8)} (h : Yields composed secret details found)
    (mem : entry ∈ found) : ∃ detail ∈ details, detail.extract composed secret = .ok entry := by
  have made : Except.ok entry ∈ details.map (·.extract composed secret) :=
    h ▸ List.mem_map_of_mem mem
  exact List.mem_map.1 made

/-- Details that yield contributions are passed, and their contributions are inserted in their
order. -/
theorem extractFrom_append (h : Yields composed secret before found)
    (after : List ConnectionDetail) (index : Nat) (published : Secret) :
    extractFrom composed secret index published (before ++ after) =
      extractFrom composed secret (index + before.length)
        (Fields.insertAll found.reduceOption published) after := by
  induction before generalizing found index published with
  | nil =>
    obtain rfl := List.map_eq_nil_iff.1 h.symm
    rfl
  | cons detail rest ih =>
    obtain ⟨entry, more, rfl, made, others⟩ := h.uncons
    rw [List.length_cons, ← Nat.add_assoc, Nat.add_right_comm]
    cases entry with
    | none =>
      rw [List.cons_append, extractFrom, made, List.reduceOption_cons_of_none]
      exact ih others (index + 1) published
    | some entry =>
      obtain ⟨name, bytes⟩ := entry
      rw [List.cons_append, extractFrom, made, List.reduceOption_cons_of_some]
      exact ih others (index + 1) (Fields.insert name bytes published)

theorem extractAll_of_yields (h : Yields composed secret details found) :
    extractAll composed secret details = .ok (Fields.ofList found.reduceOption) := by
  have passed := extractFrom_append h [] 0 []
  rw [List.append_nil] at passed
  exact passed

theorem extractAll_of_refused (passed : Yields composed secret before found)
    (refused : detail.Refused composed cause) (after : List ConnectionDetail) :
    extractAll composed secret (before ++ detail :: after) =
      .error ⟨[.connectionDetail before.length], cause⟩ := by
  rw [extractAll, extractFrom_append passed, extractFrom, extract_of_refused refused, Nat.zero_add]
  rfl

/-- Either all details yield their contributions, or there is a first one that is refused. -/
theorem yields_or_first_refused (composed : Document) (secret : Secret)
    (details : List ConnectionDetail) :
    (∃ found, Yields composed secret details found) ∨
      ∃ before detail after found cause, details = before ++ detail :: after ∧
        Yields composed secret before found ∧ detail.Refused composed cause := by
  rcases all_ok_or_first_error (·.extract composed secret) details with all |
    ⟨before, detail, after, found, e, split, passed, failed⟩
  · exact .inl all
  · obtain ⟨cause, refused, -⟩ := refused_of_extract failed
    exact .inr ⟨before, detail, after, found, cause, split, passed, refused⟩

theorem extractAll_eq_ok_iff : extractAll composed secret details = .ok out ↔
    ∃ found, Yields composed secret details found ∧ out = Fields.ofList found.reduceOption := by
  constructor
  · intro h
    rcases yields_or_first_refused composed secret details with ⟨found, yields⟩ |
      ⟨before, detail, after, found, cause, rfl, passed, refused⟩
    · rw [extractAll_of_yields yields, Except.ok.injEq] at h
      exact ⟨found, yields, h.symm⟩
    · rw [extractAll_of_refused passed refused] at h
      cases h
  · rintro ⟨found, yields, rfl⟩
    exact extractAll_of_yields yields

theorem extractAll_eq_error_iff : extractAll composed secret details = .error e ↔
    ∃ before detail after found cause, details = before ++ detail :: after ∧
      Yields composed secret before found ∧ detail.Refused composed cause ∧
      e = ⟨[.connectionDetail before.length], cause⟩ := by
  constructor
  · intro h
    rcases yields_or_first_refused composed secret details with ⟨found, yields⟩ |
      ⟨before, detail, after, found, cause, split, passed, refused⟩
    · rw [extractAll_of_yields yields] at h
      cases h
    · rw [split, extractAll_of_refused passed refused, Except.error.injEq] at h
      exact ⟨before, detail, after, found, cause, split, passed, refused, h.symm⟩
  · rintro ⟨before, detail, after, found, cause, rfl, passed, refused, rfl⟩
    exact extractAll_of_refused passed refused after

end Lists

end ResourceLoom.ConnectionDetail
