import ResourceLoom.Proofs.DetailContributions

/-! # What connection details reveal of a secret

Of the connection secret of a composed resource only the entries are read that a detail asks for, so
two secrets with the same such entries are not told apart, by what is published or by an error. And
nothing is published but what a detail contributes: an entry that it asks for, its own value, or a
field of the document.
-/
namespace ResourceLoom.ConnectionDetail

/-- The secrets have the same entry, or both none, under every key that a detail asks for. -/
def AgreeOnAsked (details : List ConnectionDetail) (first second : Secret) : Prop :=
  ∀ detail ∈ details, ∀ key, detail.AsksFor key → Fields.find? key first = Fields.find? key second

variable {detail : ConnectionDetail} {details : List ConnectionDetail} {composed : Document}
  {secret first second out : Secret}

theorem extract_congr
    (agree : ∀ key, detail.AsksFor key → Fields.find? key first = Fields.find? key second) :
    detail.extract composed first = detail.extract composed second := by
  cases type : detail.effectiveType with
  | value => simp only [extract, type]
  | fromFieldPath => simp only [extract, type]
  | fromSecretKey =>
    cases given : detail.fromConnectionSecretKey with
    | none =>
      have lacks : detail.Lacks "fromConnectionSecretKey" := .secretKey type given
      rw [extract_of_lacks lacks, extract_of_lacks lacks]
    | some key =>
      have asked : detail.AsksFor key := ⟨type, given⟩
      rw [extract_of_asksFor asked, extract_of_asksFor asked, agree key asked]

theorem extractFrom_congr (agree : AgreeOnAsked details first second) (index : Nat)
    (published : Secret) :
    extractFrom composed first index published details =
      extractFrom composed second index published details := by
  induction details generalizing index published with
  | nil => rfl
  | cons detail rest ih =>
    obtain ⟨here, later⟩ := List.forall_mem_cons.1 agree
    rw [extractFrom, extractFrom, extract_congr here]
    simp only [ih later]

/-- Every published entry is contributed by a detail. -/
theorem contributes_of_mem (h : extractAll composed secret details = .ok out)
    {entry : String × List UInt8} (mem : entry ∈ out) :
    ∃ detail ∈ details, detail.Contributes composed secret entry.1 entry.2 := by
  obtain ⟨found, yields, rfl⟩ := extractAll_eq_ok_iff.1 h
  rcases Fields.mem_or_mem_of_mem_insertAll mem with inserted | none
  · obtain ⟨detail, there, made⟩ := yields.mem (List.reduceOption_mem_iff.1 inserted)
    exact ⟨detail, there, extract_eq_some_iff.1 made⟩
  · cases none

/-- The result depends on those entries of the secret alone that a detail asks for, and all that is
published is contributed by a detail. -/
theorem extractAll_confined (composed : Document) (details : List ConnectionDetail) :
    (∀ first second : Secret, AgreeOnAsked details first second →
      extractAll composed first details = extractAll composed second details) ∧
    ∀ secret out : Secret, extractAll composed secret details = .ok out → ∀ entry ∈ out,
      ∃ detail ∈ details, detail.Contributes composed secret entry.1 entry.2 :=
  ⟨fun _ _ agree => extractFrom_congr agree 0 [], fun _ _ done _ mem => contributes_of_mem done mem⟩

/-- A host that is read from the document, though the detail also has the key of a password, and a
user from the secret. -/
def hostAndUser : List ConnectionDetail :=
  [{ ofFieldPath "host" "status.host" with fromConnectionSecretKey := some "password" },
    ofSecretKey "user" none]

def namedHost : Document := .ofEntries [("status", .ofEntries [("host", .string "db")])]

/-- The password is not published, so a secret without it gives the same. -/
theorem extractAll_confined_surplusKey :
    AgreeOnAsked hostAndUser [("password", [112]), ("user", [117])] [("user", [117])] ∧
    extractAll namedHost [("password", [112]), ("user", [117])] hostAndUser =
      .ok [("host", Text.utf8Bytes "db"), ("user", [117])] ∧
    extractAll namedHost [("user", [117])] hostAndUser =
      .ok [("host", Text.utf8Bytes "db"), ("user", [117])] := by
  have agree : AgreeOnAsked hostAndUser [("password", [112]), ("user", [117])]
      [("user", [117])] := by
    rintro detail mem key ⟨type, given⟩
    rcases List.mem_pair.1 mem with rfl | rfl
    · cases type
    · cases given
      rfl
  have same := (extractAll_confined namedHost hostAndUser).1 _ _ agree
  have published : extractAll namedHost [("user", [117])] hostAndUser =
      .ok [("host", Text.utf8Bytes "db"), ("user", [117])] := rfl
  exact ⟨agree, same.trans published, published⟩

end ResourceLoom.ConnectionDetail
