import Mathlib.Tactic.ByContra
import ResourceLoom.Proofs.FirstElements
import ResourceLoom.Proofs.LookupOutcomes
import ResourceLoom.Readiness

/-! # What readiness is decided by

A check passes, or it pends on what the document does not have yet, or it is at fault: it has no
path, its path does not fit the document, or the value there is of a kind that it does not compare
with. The three cases exclude each other and there is no fourth, so that of a list of checks the
first one that does not pass decides, and those behind it are not looked at.
-/
namespace ResourceLoom.ReadinessCheck

/-- The check is of the type and looks where the text says. -/
structure Reads (check : ReadinessCheck) (type : ReadinessCheckType) (text : String) : Prop where
  type : check.type = type
  given : check.fieldPath = some text

/-- The check asks for nothing, or the value is there and is what it asks for. -/
inductive Passes (check : ReadinessCheck) (composed : Document) : Prop where
  | always (type : check.type = .always)
  | nonEmpty {text : String} {w : Document} (reads : check.Reads .nonEmpty text)
      (held : composed.Holds text w)
  | matchString {text : String} (reads : check.Reads .matchString text)
      (held : composed.Holds text (.string check.matchString))
  | matchInteger {text : String} (reads : check.Reads .matchInteger text)
      (held : composed.Holds text (.int check.matchInteger))

/-- The value is absent, or it is another one of the kind that the check compares with. -/
inductive Pends (check : ReadinessCheck) (composed : Document) : Prop where
  | absent {type : ReadinessCheckType} {text : String} (reads : check.Reads type text)
      (looks : type ≠ .always) (missed : composed.Misses text)
  | otherString {text s : String} (reads : check.Reads .matchString text)
      (held : composed.Holds text (.string s)) (differs : s ≠ check.matchString)
  | otherInteger {text : String} {n : Int64} (reads : check.Reads .matchInteger text)
      (held : composed.Holds text (.int n)) (differs : n ≠ check.matchInteger)

/-- The value is of another kind than the check compares with. -/
inductive WrongKind (check : ReadinessCheck) (composed : Document) : PathError → Prop where
  | string {text : String} {w : Document} (reads : check.Reads .matchString text)
      (held : composed.Holds text w) (other : ∀ s, w ≠ .string s) :
      WrongKind check composed (.typeMismatch text "string" w.shapeName)
  | integer {text : String} {w : Document} (reads : check.Reads .matchInteger text)
      (held : composed.Holds text w) (other : ∀ n, w ≠ .int n) :
      WrongKind check composed (.typeMismatch text "integer" w.shapeName)

/-- Why a check can neither pass nor pend. -/
inductive Faulty (check : ReadinessCheck) (composed : Document) : Cause → Prop where
  | unset (looks : check.type ≠ .always) (unset : check.fieldPath = none) :
      Faulty check composed (.requiredField "fieldPath" check.type.name)
  | barred {type : ReadinessCheckType} {text : String} {fault : PathError}
      (reads : check.Reads type text) (looks : type ≠ .always) (bars : composed.Bars text fault) :
      Faulty check composed (.path fault)
  | wrongKind {fault : PathError} (wrong : check.WrongKind composed fault) :
      Faulty check composed (.path fault)

variable {check : ReadinessCheck} {type : ReadinessCheckType} {composed : Document} {text : String}
  {fault : PathError} {cause : Cause} {e : Error}

theorem isReady_of_judged {passed : Bool} (reads : check.Reads type text) (looks : type ≠ .always)
    (judged : check.judge composed text = .ok passed) : check.isReady composed = .ok passed := by
  obtain ⟨rfl, given⟩ := reads
  rw [isReady, if_neg looks, given]
  simp only [judged]

theorem isReady_of_missing {missing : Path} (reads : check.Reads type text)
    (looks : type ≠ .always) (judged : check.judge composed text = .error (.notFound missing)) :
    check.isReady composed = .ok false := by
  obtain ⟨rfl, given⟩ := reads
  rw [isReady, if_neg looks, given]
  simp only [judged]

theorem isReady_of_error (reads : check.Reads type text) (looks : type ≠ .always)
    (judged : check.judge composed text = .error fault) (other : fault.NotMissing) :
    check.isReady composed = .error (.ofPath fault) := by
  obtain ⟨rfl, given⟩ := reads
  rw [isReady, if_neg looks, given]
  cases fault with
  | notFound missing => exact absurd rfl (other missing)
  | _ => simp only [judged]

theorem judge_nonEmpty (reads : check.Reads .nonEmpty text) (composed : Document) :
    check.judge composed text = (fun _ => true) <$> composed.valueAt text := by
  simp only [judge, reads.type]

theorem judge_matchString (reads : check.Reads .matchString text) (composed : Document) :
    check.judge composed text = (· == check.matchString) <$> composed.stringAt text := by
  simp only [judge, reads.type]

theorem judge_matchInteger (reads : check.Reads .matchInteger text) (composed : Document) :
    check.judge composed text = (· == check.matchInteger) <$> composed.integerAt text := by
  simp only [judge, reads.type]

theorem judge_of_error (reads : check.Reads type text) (looks : type ≠ .always)
    (failed : composed.valueAt text = .error fault) :
    check.judge composed text = .error fault := by
  cases type with
  | always => exact absurd rfl looks
  | nonEmpty =>
    rw [judge_nonEmpty reads, failed]
    rfl
  | matchString =>
    rw [judge_matchString reads, Document.stringAt_of_error failed]
    rfl
  | matchInteger =>
    rw [judge_matchInteger reads, Document.integerAt_of_error failed]
    rfl

theorem judge_of_string {s : String} (reads : check.Reads .matchString text)
    (held : composed.Holds text (.string s)) :
    check.judge composed text = .ok (s == check.matchString) := by
  rw [judge_matchString reads, Document.stringAt_of_holds held]
  rfl

theorem judge_of_integer {n : Int64} (reads : check.Reads .matchInteger text)
    (held : composed.Holds text (.int n)) :
    check.judge composed text = .ok (n == check.matchInteger) := by
  rw [judge_matchInteger reads, Document.integerAt_of_holds held]
  rfl

theorem judge_of_wrongKind (h : check.WrongKind composed fault) : ∃ type text,
    check.Reads type text ∧ type ≠ .always ∧ check.judge composed text = .error fault := by
  cases h with
  | string reads held other =>
    refine ⟨_, _, reads, nofun, ?_⟩
    rw [judge_matchString reads, Document.stringAt_of_other held other]
    rfl
  | integer reads held other =>
    refine ⟨_, _, reads, nofun, ?_⟩
    rw [judge_matchInteger reads, Document.integerAt_of_other held other]
    rfl

theorem WrongKind.notMissing (h : check.WrongKind composed fault) : fault.NotMissing := by
  cases h <;> exact nofun

theorem isReady_of_passes (h : check.Passes composed) : check.isReady composed = .ok true := by
  cases h with
  | always type => rw [isReady, if_pos type]
  | @nonEmpty text w reads held =>
    have judged : check.judge composed text = .ok true := by
      rw [judge_nonEmpty reads, Document.valueAt_of_holds held]
      rfl
    exact isReady_of_judged reads nofun judged
  | matchString reads held =>
    have judged := judge_of_string reads held
    rw [beq_self_eq_true] at judged
    exact isReady_of_judged reads nofun judged
  | matchInteger reads held =>
    have judged := judge_of_integer reads held
    rw [beq_self_eq_true] at judged
    exact isReady_of_judged reads nofun judged

theorem isReady_of_pends (h : check.Pends composed) : check.isReady composed = .ok false := by
  cases h with
  | absent reads looks missed =>
    obtain ⟨missing, failed⟩ := Document.valueAt_of_misses missed
    exact isReady_of_missing reads looks (judge_of_error reads looks failed)
  | otherString reads held differs =>
    have judged := judge_of_string reads held
    rw [beq_false_of_ne differs] at judged
    exact isReady_of_judged reads nofun judged
  | otherInteger reads held differs =>
    have judged := judge_of_integer reads held
    rw [beq_false_of_ne differs] at judged
    exact isReady_of_judged reads nofun judged

theorem isReady_of_faulty (h : check.Faulty composed cause) :
    check.isReady composed = .error (.ofCause cause) := by
  cases h with
  | unset looks unset => rw [isReady, if_neg looks, unset]
  | barred reads looks bars =>
    have failed := judge_of_error reads looks (Document.valueAt_of_bars bars)
    exact isReady_of_error reads looks failed bars.notMissing
  | wrongKind wrong =>
    obtain ⟨type, text, reads, looks, failed⟩ := judge_of_wrongKind wrong
    exact isReady_of_error reads looks failed wrong.notMissing

/-- A value is what a check wants, another one of the same kind, or of another kind. -/
theorem passes_or_pends_or_wrongKind {w : Document} (reads : check.Reads type text)
    (held : composed.Holds text w) :
    check.Passes composed ∨ check.Pends composed ∨ ∃ fault, check.WrongKind composed fault := by
  cases type with
  | always => exact .inl (.always reads.type)
  | nonEmpty => exact .inl (.nonEmpty reads held)
  | matchString =>
    by_cases kind : ∃ s, w = .string s
    · obtain ⟨s, rfl⟩ := kind
      by_cases same : s = check.matchString
      · exact .inl (.matchString reads (same ▸ held))
      · exact .inr (.inl (.otherString reads held same))
    · exact .inr (.inr ⟨_, .string reads held (not_exists.1 kind)⟩)
  | matchInteger =>
    by_cases kind : ∃ n, w = .int n
    · obtain ⟨n, rfl⟩ := kind
      by_cases same : n = check.matchInteger
      · exact .inl (.matchInteger reads (same ▸ held))
      · exact .inr (.inl (.otherInteger reads held same))
    · exact .inr (.inr ⟨_, .integer reads held (not_exists.1 kind)⟩)

theorem passes_or_pends_or_faulty (check : ReadinessCheck) (composed : Document) :
    check.Passes composed ∨ check.Pends composed ∨ ∃ cause, check.Faulty composed cause := by
  by_cases looks : check.type = .always
  · exact .inl (.always looks)
  cases given : check.fieldPath with
  | none => exact .inr (.inr ⟨_, .unset looks given⟩)
  | some text =>
    have reads : check.Reads check.type text := ⟨rfl, given⟩
    rcases composed.holds_or_misses_or_bars text with ⟨w, held⟩ | missed | ⟨fault, bars⟩
    · rcases passes_or_pends_or_wrongKind reads held with passes | pends | ⟨fault, wrong⟩
      · exact .inl passes
      · exact .inr (.inl pends)
      · exact .inr (.inr ⟨_, .wrongKind wrong⟩)
    · exact .inr (.inl (.absent reads looks missed))
    · exact .inr (.inr ⟨_, .barred reads looks bars⟩)

theorem isReady_eq_true_iff : check.isReady composed = .ok true ↔ check.Passes composed := by
  refine ⟨fun h => ?_, isReady_of_passes⟩
  rcases check.passes_or_pends_or_faulty composed with passes | pends | ⟨cause, faulty⟩
  · exact passes
  · cases (isReady_of_pends pends).symm.trans h
  · cases (isReady_of_faulty faulty).symm.trans h

theorem isReady_eq_false_iff : check.isReady composed = .ok false ↔ check.Pends composed := by
  refine ⟨fun h => ?_, isReady_of_pends⟩
  rcases check.passes_or_pends_or_faulty composed with passes | pends | ⟨cause, faulty⟩
  · cases (isReady_of_passes passes).symm.trans h
  · exact pends
  · cases (isReady_of_faulty faulty).symm.trans h

theorem isReady_eq_error_iff : check.isReady composed = .error e ↔
    ∃ cause, check.Faulty composed cause ∧ e = .ofCause cause := by
  constructor
  · intro h
    rcases check.passes_or_pends_or_faulty composed with passes | pends | ⟨cause, faulty⟩
    · cases (isReady_of_passes passes).symm.trans h
    · cases (isReady_of_pends pends).symm.trans h
    · exact ⟨cause, faulty, Except.error.inj (h.symm.trans (isReady_of_faulty faulty))⟩
  · rintro ⟨cause, faulty, rfl⟩
    exact isReady_of_faulty faulty

theorem Pends.not_passes (h : check.Pends composed) : ¬ check.Passes composed :=
  fun passes => nomatch (isReady_of_passes passes).symm.trans (isReady_of_pends h)

theorem Faulty.not_passes (h : check.Faulty composed cause) : ¬ check.Passes composed :=
  fun passes => nomatch (isReady_of_passes passes).symm.trans (isReady_of_faulty h)

theorem errorClass_of_bars (h : composed.Bars text fault) :
    (Cause.path fault).errorClass = .document := by
  cases h with
  | malformed parsed =>
    obtain rfl | ⟨inner, position, rfl⟩ := Path.empty_or_malformed_of_parse parsed <;> rfl
  | @misfit before after s w parsed reached other => cases s <;> rfl

/-- Of the faults, a value of the wrong kind is told apart by its class. -/
theorem Faulty.class_eq_resolution_iff (h : check.Faulty composed cause) :
    cause.errorClass = .resolution ↔
      ∃ fault, cause = .path fault ∧ check.WrongKind composed fault := by
  constructor
  · intro resolution
    cases h with
    | unset looks unset => cases resolution
    | barred reads looks bars => cases (errorClass_of_bars bars).symm.trans resolution
    | wrongKind wrong => exact ⟨_, rfl, wrong⟩
  · rintro ⟨fault, rfl, wrong⟩
    cases wrong <;> rfl

theorem Faulty.ne_notFound (h : check.Faulty composed cause) (missing : Path) :
    cause ≠ .path (.notFound missing) := by
  cases h with
  | unset looks unset => nofun
  | barred reads looks bars => exact fun same => bars.notMissing missing (Cause.path.inj same)
  | wrongKind wrong => exact fun same => wrong.notMissing missing (Cause.path.inj same)

section Lists

variable {checks before rest : List ReadinessCheck}

/-- Checks that pass are passed over. -/
theorem allReadyFrom_append (passed : ∀ earlier ∈ before, earlier.Passes composed)
    (rest : List ReadinessCheck) (index : Nat) :
    allReadyFrom composed index (before ++ rest) =
      allReadyFrom composed (index + before.length) rest := by
  induction before generalizing index with
  | nil => rfl
  | cons check before ih =>
    obtain ⟨here, later⟩ := List.forall_mem_cons.1 passed
    rw [List.cons_append, allReadyFrom, isReady_of_passes here, ih later, List.length_cons,
      Nat.add_assoc, Nat.add_comm 1]

theorem allReady_of_passed (passed : ∀ check ∈ checks, check.Passes composed)
    (nonempty : checks ≠ []) : allReady checks composed = .ok true := by
  have all := allReadyFrom_append passed [] 0
  rw [List.append_nil] at all
  rw [allReady, if_neg nonempty, all]
  rfl

/-- Behind checks that pass, the next one decides alone, if it does not pass. -/
theorem allReady_of_first (passed : ∀ earlier ∈ before, earlier.Passes composed)
    (fails : ¬ check.Passes composed) (rest : List ReadinessCheck) :
    allReady (before ++ check :: rest) composed =
      (check.isReady composed).mapError (·.within (.readinessCheck before.length)) := by
  have nonempty : before ++ check :: rest ≠ [] := by simp
  rw [allReady, if_neg nonempty, allReadyFrom_append passed, allReadyFrom, Nat.zero_add]
  cases ready : check.isReady composed with
  | error e => rfl
  | ok passes =>
    cases passes with
    | false => rfl
    | true => exact absurd (isReady_eq_true_iff.1 ready) fails

theorem allReady_of_first_eq_false_iff (passed : ∀ earlier ∈ before, earlier.Passes composed)
    (fails : ¬ check.Passes composed) :
    allReady (before ++ check :: rest) composed = .ok false ↔ check.Pends composed := by
  rw [allReady_of_first passed fails, ← isReady_eq_false_iff]
  cases check.isReady composed <;> simp [Except.mapError]

theorem allReady_of_first_eq_error_iff (passed : ∀ earlier ∈ before, earlier.Passes composed)
    (fails : ¬ check.Passes composed) :
    allReady (before ++ check :: rest) composed = .error e ↔
      ∃ cause, check.Faulty composed cause ∧ e = ⟨[.readinessCheck before.length], cause⟩ := by
  rw [allReady_of_first passed fails]
  constructor
  · intro failed
    cases ready : check.isReady composed with
    | error inner =>
      obtain ⟨cause, faulty, rfl⟩ := isReady_eq_error_iff.1 ready
      rw [ready] at failed
      exact ⟨cause, faulty, (Except.error.inj failed).symm⟩
    | ok passes =>
      rw [ready] at failed
      cases failed
  · rintro ⟨cause, faulty, rfl⟩
    rw [isReady_of_faulty faulty]
    rfl

/-- Where not all checks pass, there is a first one that does not. -/
theorem exists_first_failing (h : ¬ ∀ check ∈ checks, check.Passes composed) :
    ∃ before check after, checks = before ++ check :: after ∧ ¬ check.Passes composed ∧
      ∀ earlier ∈ before, earlier.Passes composed := by
  obtain ⟨check, mem, fails⟩ : ∃ check ∈ checks, ¬ check.Passes composed := by
    simpa using h
  have found : ∃ first, FirstWith (fun check => ¬ check.Passes composed) checks first :=
    FirstWith.exists mem fails
  obtain ⟨first, before, after, split, firstFails, passed⟩ := found
  exact ⟨before, first, after, split, firstFails,
    fun earlier there => not_not.1 (passed earlier there)⟩

theorem allReady_eq_true_iff (nonempty : checks ≠ []) :
    allReady checks composed = .ok true ↔ ∀ check ∈ checks, check.Passes composed := by
  refine ⟨fun ready => ?_, fun passed => allReady_of_passed passed nonempty⟩
  by_contra notAll
  obtain ⟨before, check, after, rfl, fails, passed⟩ := exists_first_failing notAll
  rw [allReady_of_first passed fails] at ready
  cases alone : check.isReady composed with
  | error e =>
    rw [alone] at ready
    cases ready
  | ok passes =>
    rw [alone] at ready
    cases ready
    exact fails (isReady_eq_true_iff.1 alone)

/-- All checks pass, or the first that does not decides: the document is not ready where it pends, and
where it is at fault, that is reported with its position. -/
theorem allReady_decided (composed : Document) (checks : List ReadinessCheck)
    (nonempty : checks ≠ []) :
    (allReady checks composed = .ok true ↔ ∀ check ∈ checks, check.Passes composed) ∧
    ∀ before check after, checks = before ++ check :: after →
      (∀ earlier ∈ before, earlier.Passes composed) → ¬ check.Passes composed →
      (allReady checks composed = .ok false ↔ check.Pends composed) ∧
      (∀ e, allReady checks composed = .error e ↔
        ∃ cause, check.Faulty composed cause ∧ e = ⟨[.readinessCheck before.length], cause⟩) ∧
      (∀ e, allReady checks composed = .error e →
        (e.errorClass = .resolution ↔
          ∃ fault, e.cause = .path fault ∧ check.WrongKind composed fault) ∧
        ∀ missing, e.cause ≠ .path (.notFound missing)) ∧
      ∀ others, allReady (before ++ check :: others) composed = allReady checks composed := by
  refine ⟨allReady_eq_true_iff nonempty, ?_⟩
  rintro before check after rfl passed fails
  refine ⟨allReady_of_first_eq_false_iff passed fails,
    fun e => allReady_of_first_eq_error_iff passed fails, fun e failed => ?_, fun others => ?_⟩
  · obtain ⟨cause, faulty, rfl⟩ := (allReady_of_first_eq_error_iff passed fails).1 failed
    exact ⟨faulty.class_eq_resolution_iff, faulty.ne_notFound⟩
  · rw [allReady_of_first passed fails, allReady_of_first passed fails]

/-- A document without an endpoint. -/
def running : Document := .ofEntries [("status", .ofEntries [("phase", .string "Running")])]

/-- The phase is as it should be and the endpoint is not there, so a replica count that does not fit
the phase is not looked at; before the endpoint, it is an error. -/
theorem allReady_decided_missingEndpoint :
    allReady [ofString "status.phase" "Running", ofNonEmpty "status.endpoint",
      ofInteger "status.phase" 1] running = .ok false ∧
    allReady [ofString "status.phase" "Running", ofInteger "status.phase" 1,
      ofNonEmpty "status.endpoint"] running =
      .error ⟨[.readinessCheck 1], .path (.typeMismatch "status.phase" "integer" "string")⟩ := by
  have parsed : Path.parse "status.phase" = .ok [.field "status", .field "phase"] := rfl
  have held : running.Holds "status.phase" (.string "Running") := ⟨_, parsed, rfl⟩
  have phase : (ofString "status.phase" "Running").Passes running := .matchString ⟨rfl, rfl⟩ held
  have passed : ∀ earlier ∈ [ofString "status.phase" "Running"], earlier.Passes running :=
    List.forall_mem_singleton.2 phase
  have endpoint : (ofNonEmpty "status.endpoint").Pends running := by
    refine .absent ⟨rfl, rfl⟩ nofun ?_
    exact ⟨[.field "status"], .field "endpoint", [], _, rfl, rfl, trivial, rfl⟩
  have wrong : (ofInteger "status.phase" 1).Faulty running
      (.path (.typeMismatch "status.phase" "integer" "string")) :=
    .wrongKind (.integer ⟨rfl, rfl⟩ held nofun)
  constructor
  · have decided := (allReady_decided running _ (List.cons_ne_nil _ _)).2
      [ofString "status.phase" "Running"] (ofNonEmpty "status.endpoint")
      [ofInteger "status.phase" 1] rfl passed endpoint.not_passes
    exact decided.1.2 endpoint
  · have decided := (allReady_decided running _ (List.cons_ne_nil _ _)).2
      [ofString "status.phase" "Running"] (ofInteger "status.phase" 1)
      [ofNonEmpty "status.endpoint"] rfl passed wrong.not_passes
    exact (decided.2.1 _).2 ⟨_, wrong, rfl⟩

end Lists

end ResourceLoom.ReadinessCheck
