import Mathlib.Data.List.Induction
import ResourceLoom.Proofs.DetailContributions

/-! # How connection details accumulate

What a list of connection details publishes is what its first part publishes, overridden key by key
by what its second part does, and the first detail that is refused stops both. So each published key
holds what the last detail has contributed to it, and a detail whose entry or field is absent may as
well not be there.
-/
namespace ResourceLoom.ConnectionDetail

variable {composed : Document} {secret below above out : Secret}

section Append

variable {details first second : List ConnectionDetail} {cause : Cause} {e : Error} {index : Nat}

theorem extractAll_append_of_error (failed : extractAll composed secret first = .error e)
    (second : List ConnectionDetail) :
    extractAll composed secret (first ++ second) = .error e := by
  obtain ⟨before, detail, after, found, cause, rfl, passed, refused, rfl⟩ :=
    extractAll_eq_error_iff.1 failed
  rw [List.append_assoc, List.cons_append]
  exact extractAll_of_refused passed refused (after ++ second)

theorem extractAll_append_of_later_error (passed : extractAll composed secret first = .ok below)
    (failed : extractAll composed secret second = .error ⟨[.connectionDetail index], cause⟩) :
    extractAll composed secret (first ++ second) =
      .error ⟨[.connectionDetail (first.length + index)], cause⟩ := by
  obtain ⟨found, yields, -⟩ := extractAll_eq_ok_iff.1 passed
  obtain ⟨before, detail, after, more, inner, rfl, further, refused, same⟩ :=
    extractAll_eq_error_iff.1 failed
  cases same
  rw [← List.append_assoc, ← List.length_append]
  exact extractAll_of_refused (yields.append further) refused after

theorem extractAll_append_of_ok (hfirst : extractAll composed secret first = .ok below)
    (hsecond : extractAll composed secret second = .ok above) :
    ∃ all, extractAll composed secret (first ++ second) = .ok all ∧
      Fields.Overridden below above all := by
  obtain ⟨found, yields, rfl⟩ := extractAll_eq_ok_iff.1 hfirst
  obtain ⟨more, further, rfl⟩ := extractAll_eq_ok_iff.1 hsecond
  refine ⟨_, extractAll_of_yields (yields.append further), ?_⟩
  have joined : Fields.ofList (found ++ more).reduceOption =
      Fields.insertAll more.reduceOption (Fields.ofList found.reduceOption) := by
    rw [List.reduceOption_append]
    exact Fields.insertAll_append found.reduceOption more.reduceOption []
  rw [joined]
  exact Fields.overridden_insertAll (Fields.sorted_ofList _) _

theorem place_of_extractAll (failed : extractAll composed secret details = .error e) :
    ∃ index cause, e = ⟨[.connectionDetail index], cause⟩ := by
  obtain ⟨before, detail, after, found, cause, -, -, -, rfl⟩ := extractAll_eq_error_iff.1 failed
  exact ⟨_, cause, rfl⟩

/-- The first list fails, or else the second, or both publish and so do they together. -/
theorem extractAll_append_cases (composed : Document) (secret : Secret)
    (first second : List ConnectionDetail) :
    (∃ e, extractAll composed secret first = .error e ∧
      extractAll composed secret (first ++ second) = .error e) ∨
    (∃ below index cause, extractAll composed secret first = .ok below ∧
      extractAll composed secret second = .error ⟨[.connectionDetail index], cause⟩ ∧
      extractAll composed secret (first ++ second) =
        .error ⟨[.connectionDetail (first.length + index)], cause⟩) ∨
    ∃ below above all, extractAll composed secret first = .ok below ∧
      extractAll composed secret second = .ok above ∧
      extractAll composed secret (first ++ second) = .ok all ∧
      Fields.Overridden below above all := by
  cases hfirst : extractAll composed secret first with
  | error e => exact .inl ⟨e, rfl, extractAll_append_of_error hfirst second⟩
  | ok below =>
    cases hsecond : extractAll composed secret second with
    | error e =>
      obtain ⟨index, cause, rfl⟩ := place_of_extractAll hsecond
      exact .inr (.inl ⟨below, index, cause, rfl, rfl,
        extractAll_append_of_later_error hfirst hsecond⟩)
    | ok above =>
      obtain ⟨all, published, overridden⟩ := extractAll_append_of_ok hfirst hsecond
      exact .inr (.inr ⟨below, above, all, rfl, rfl, published, overridden⟩)

/-- Two lists fail with the first one, or else with the second, whose positions are counted on. -/
theorem extractAll_append_eq_error_iff :
    extractAll composed secret (first ++ second) = .error e ↔
      extractAll composed secret first = .error e ∨
      ∃ below index cause, extractAll composed secret first = .ok below ∧
        extractAll composed secret second = .error ⟨[.connectionDetail index], cause⟩ ∧
        e = ⟨[.connectionDetail (first.length + index)], cause⟩ := by
  constructor
  · intro failed
    rcases extractAll_append_cases composed secret first second with ⟨inner, hfirst, both⟩ |
      ⟨below, index, cause, hfirst, hsecond, both⟩ | ⟨below, above, all, -, -, both, -⟩
    · exact .inl (hfirst.trans (both.symm.trans failed))
    · exact .inr ⟨below, index, cause, hfirst, hsecond, Except.error.inj (failed.symm.trans both)⟩
    · cases both.symm.trans failed
  · rintro (hfirst | ⟨below, index, cause, hfirst, hsecond, rfl⟩)
    · exact extractAll_append_of_error hfirst second
    · exact extractAll_append_of_later_error hfirst hsecond

/-- Two lists that succeed publish what the first does, overridden by what the second does. -/
theorem extractAll_append_eq_ok_iff :
    extractAll composed secret (first ++ second) = .ok out ↔
      ∃ below above, extractAll composed secret first = .ok below ∧
        extractAll composed secret second = .ok above ∧ Fields.Overridden below above out := by
  constructor
  · intro done
    rcases extractAll_append_cases composed secret first second with ⟨inner, -, both⟩ |
      ⟨below, index, cause, -, -, both⟩ | ⟨below, above, all, hfirst, hsecond, both, overridden⟩
    · cases both.symm.trans done
    · cases both.symm.trans done
    · obtain rfl := Except.ok.inj (both.symm.trans done)
      exact ⟨below, above, hfirst, hsecond, overridden⟩
  · rintro ⟨below, above, hfirst, hsecond, overridden⟩
    obtain ⟨all, published, same⟩ := extractAll_append_of_ok hfirst hsecond
    rw [published, same.unique overridden]

end Append

/-- Of the details that contribute under the name, the last one contributes the bytes. -/
def LastContribution (composed : Document) (secret : Secret) (details : List ConnectionDetail)
    (name : String) (bytes : List UInt8) : Prop :=
  ∃ before detail after, details = before ++ detail :: after ∧
    detail.Contributes composed secret name bytes ∧
    ∀ later ∈ after, ∀ other, ¬ later.Contributes composed secret name other

section LastContribution

variable {detail : ConnectionDetail} {details : List ConnectionDetail} {name : String}
  {bytes : List UInt8}

theorem lastContribution_concat :
    LastContribution composed secret (details ++ [detail]) name bytes ↔
      detail.Contributes composed secret name bytes ∨
      (∀ other, ¬ detail.Contributes composed secret name other) ∧
        LastContribution composed secret details name bytes := by
  constructor
  · rintro ⟨before, last, after, split, contributes, silent⟩
    rcases List.eq_nil_or_concat after with rfl | ⟨rest, end', rfl⟩
    · obtain ⟨-, same⟩ := List.append_inj' split rfl
      cases same
      exact .inl contributes
    · rw [List.concat_eq_append, ← List.cons_append, ← List.append_assoc] at split
      obtain ⟨rfl, same⟩ := List.append_inj' split rfl
      cases same
      have quiet := silent detail (by simp)
      exact .inr ⟨quiet, before, last, rest, rfl, contributes, fun d mem => silent d (by simp [mem])⟩
  · rintro (contributes | ⟨quiet, before, last, after, rfl, contributes, silent⟩)
    · exact ⟨details, detail, [], rfl, contributes, nofun⟩
    · refine ⟨before, last, after ++ [detail], by simp, contributes, fun d mem => ?_⟩
      rcases List.mem_append.1 mem with there | same
      · exact silent d there
      · exact List.mem_singleton.1 same ▸ quiet

/-- One detail publishes what it contributes. -/
theorem find?_extractAll_singleton (done : extractAll composed secret [detail] = .ok above) :
    Fields.find? name above = some bytes ↔ detail.Contributes composed secret name bytes := by
  obtain ⟨found, yields, rfl⟩ := extractAll_eq_ok_iff.1 done
  obtain ⟨entry, more, rfl, made, nothing⟩ := yields.uncons
  obtain rfl := List.map_eq_nil_iff.1 nothing.symm
  rw [← extract_eq_some_iff, made]
  cases entry with
  | none =>
    rw [List.reduceOption_cons_of_none, List.reduceOption_nil, Fields.ofList_eq_insertAll]
    simp [Fields.insertAll]
  | some entry =>
    rw [List.reduceOption_cons_of_some, List.reduceOption_nil, Fields.ofList_eq_insertAll,
      Fields.find?_insertAll]
    by_cases same : entry.1 = name
    · simp [Fields.find?, same, Prod.ext_iff]
    · simp [Fields.find?, same, Prod.ext_iff]

/-- A published key holds the last contribution to it. -/
theorem find?_extractAll (done : extractAll composed secret details = .ok out) :
    Fields.find? name out = some bytes ↔
      LastContribution composed secret details name bytes := by
  induction details using List.reverseRecOn generalizing out with
  | nil =>
    cases done
    simp [LastContribution]
  | append_singleton details detail ih =>
    obtain ⟨below, above, hfirst, hlast, overridden⟩ := extractAll_append_eq_ok_iff.1 done
    have onLast (other : List UInt8) : Fields.find? name above = some other ↔
        detail.Contributes composed secret name other := find?_extractAll_singleton hlast
    rw [overridden.values, lastContribution_concat, ← ih hfirst, Option.or_eq_some_iff, onLast,
      Option.eq_none_iff_forall_ne_some]
    simp only [ne_eq, onLast]

end LastContribution

section Absent

variable {detail : ConnectionDetail} {before : List ConnectionDetail} {name : String}

theorem extractAll_cons_of_absent (absent : detail.Absent composed secret)
    (after : List ConnectionDetail) :
    extractAll composed secret (detail :: after) = .ok out ↔
      extractAll composed secret after = .ok out := by
  rw [extractAll_eq_ok_iff, extractAll_eq_ok_iff]
  have made := extract_of_absent absent
  constructor
  · rintro ⟨found, yields, rfl⟩
    obtain ⟨entry, more, rfl, same, others⟩ := yields.uncons
    rw [made, Except.ok.injEq] at same
    exact ⟨more, others, same ▸ congrArg Fields.ofList (List.reduceOption_cons_of_none more)⟩
  · rintro ⟨more, others, rfl⟩
    refine ⟨none :: more, ?_, congrArg Fields.ofList (List.reduceOption_cons_of_none more).symm⟩
    rw [Yields, List.map_cons, List.map_cons, made, others]

/-- A detail whose entry or field is absent may as well not be there. -/
theorem extractAll_drop_absent (absent : detail.Absent composed secret)
    (before after : List ConnectionDetail) :
    extractAll composed secret (before ++ detail :: after) = .ok out ↔
      extractAll composed secret (before ++ after) = .ok out := by
  simp only [extractAll_append_eq_ok_iff, extractAll_cons_of_absent absent]

/-- A field behind a value of the wrong kind is no absent one. -/
theorem extractAll_of_bars {text : String} {fault : PathError}
    (passed : extractAll composed secret before = .ok out)
    (reads : detail.ReadsField name text) (bars : composed.Bars text fault)
    (after : List ConnectionDetail) :
    extractAll composed secret (before ++ detail :: after) =
      .error ⟨[.connectionDetail before.length], .path fault⟩ := by
  obtain ⟨found, yields, -⟩ := extractAll_eq_ok_iff.1 passed
  exact extractAll_of_refused yields (.barred reads bars) after

end Absent

/-- Lists of details fail with the first failure and publish the later over the earlier, so the last
contribution to a key counts. Absent entries and fields change nothing, and a field that the shape of
the document bars is an error. -/
theorem extractAll_accumulates (composed : Document) (secret : Secret) :
    (∀ first second : List ConnectionDetail,
      (∀ e, extractAll composed secret (first ++ second) = .error e ↔
        extractAll composed secret first = .error e ∨
        ∃ below index cause, extractAll composed secret first = .ok below ∧
          extractAll composed secret second = .error ⟨[.connectionDetail index], cause⟩ ∧
          e = ⟨[.connectionDetail (first.length + index)], cause⟩) ∧
      ∀ out, extractAll composed secret (first ++ second) = .ok out ↔
        ∃ below above, extractAll composed secret first = .ok below ∧
          extractAll composed secret second = .ok above ∧ Fields.Overridden below above out) ∧
    (∀ details out, extractAll composed secret details = .ok out → ∀ name bytes,
      Fields.find? name out = some bytes ↔
        LastContribution composed secret details name bytes) ∧
    (∀ detail : ConnectionDetail, detail.Absent composed secret → ∀ before after out,
      extractAll composed secret (before ++ detail :: after) = .ok out ↔
        extractAll composed secret (before ++ after) = .ok out) ∧
    ∀ (detail : ConnectionDetail) (name text : String) (fault : PathError),
      detail.ReadsField name text → composed.Bars text fault → ∀ before after out,
        extractAll composed secret before = .ok out →
        extractAll composed secret (before ++ detail :: after) =
          .error ⟨[.connectionDetail before.length], .path fault⟩ :=
  ⟨fun _ _ => ⟨fun _ => extractAll_append_eq_error_iff, fun _ => extractAll_append_eq_ok_iff⟩,
    fun _ _ done _ _ => find?_extractAll done,
    fun _ absent before after _ => extractAll_drop_absent absent before after,
    fun _ _ _ _ reads bars _ after _ passed => extractAll_of_bars passed reads bars after⟩

/-- A fixed user, and over it the one that the secret holds under another key. -/
def fixedThenHeldUser : List ConnectionDetail :=
  [ofValue "user" "root", ofSecretKey "login" (some "user")]

def plainHost : Document := .ofEntries [("status", .ofEntries [("host", .string "db")])]

/-- The user of the secret counts, a password that it does not hold is passed over, and a port below
the text of the host is an error. -/
theorem extractAll_accumulates_sharedName :
    extractAll plainHost [("login", [111])] fixedThenHeldUser = .ok [("user", [111])] ∧
    LastContribution plainHost [("login", [111])] fixedThenHeldUser "user" [111] ∧
    extractAll plainHost [("login", [111])] (fixedThenHeldUser ++ [ofSecretKey "password" none]) =
      .ok [("user", [111])] ∧
    extractAll plainHost [("login", [111])]
        (fixedThenHeldUser ++ [ofFieldPath "port" "status.host.port"]) =
      .error ⟨[.connectionDetail 2], .path (.notAnObject [.field "status", .field "host"])⟩ := by
  obtain ⟨-, lasts, absent, barred⟩ := extractAll_accumulates plainHost [("login", [111])]
  have published : extractAll plainHost [("login", [111])] fixedThenHeldUser =
      .ok [("user", [111])] := rfl
  have unheld : (ofSecretKey "password" none).Absent plainHost [("login", [111])] :=
    .secretKey ⟨rfl, rfl⟩ rfl
  have reads : (ofFieldPath "port" "status.host.port").ReadsField "port" "status.host.port" :=
    ⟨rfl, rfl, rfl⟩
  have parsed : Path.parse "status.host.port" =
      .ok ([.field "status", .field "host"] ++ .field "port" :: []) := rfl
  have reached : plainHost.reach [.field "status", .field "host"] = some (.string "db") := rfl
  have bars : plainHost.Bars "status.host.port" (.notAnObject [.field "status", .field "host"]) :=
    .misfit parsed reached id
  refine ⟨published, (lasts _ _ published _ _).1 rfl, ?_, barred _ _ _ _ reads bars _ [] _ published⟩
  rw [absent _ unheld, List.append_nil]
  exact published

end ResourceLoom.ConnectionDetail
