import ResourceLoom.Proofs.MetadataFrame

/-! # Owner references of composed resources

The metadata stage reports the first owner reference that makes another owner a controller. Without
one it enters the reference to the composite in the place of the first entry with the identifier of
the composite, or behind all entries. Further entries with that identifier stay as they are, so the
composite is entered exactly once if and only if there was at most one entry for it before.
-/
namespace ResourceLoom.Render

/-- A reference enters a list: in the place of the first entry with the identifier, or at the end
when there is none. -/
inductive Entered (uid : String) (reference : Document) : List Document → List Document → Prop where
  | replaced {before after : List Document} {r : Document} (same : r.textField "uid" = uid)
      (others : ∀ other ∈ before, other.textField "uid" ≠ uid) :
      Entered uid reference (before ++ r :: after) (before ++ reference :: after)
  | appended {references : List Document} (absent : ∀ r ∈ references, r.textField "uid" ≠ uid) :
      Entered uid reference references (references ++ [reference])

/-- How many of the references have the identifier. -/
def entriesOf (uid : String) (references : List Document) : Nat :=
  references.countP (·.textField "uid" = uid)

/-- The reference is the only one with the identifier and the only one that makes a controller. -/
def SoleController (uid : String) (reference : Document) (references : List Document) : Prop :=
  ∃ before after, references = before ++ reference :: after ∧
    ∀ other ∈ before ++ after, other.textField "uid" ≠ uid ∧ isController other = false

section References

variable {uid : String} {reference : Document} {references : List Document}

theorem Entered.cons {merged : List Document} {r : Document} (differs : r.textField "uid" ≠ uid)
    (h : Entered uid reference references merged) :
    Entered uid reference (r :: references) (r :: merged) := by
  cases h with
  | replaced same others => exact .replaced same (List.forall_mem_cons.2 ⟨differs, others⟩)
  | appended absent => exact .appended (List.forall_mem_cons.2 ⟨differs, absent⟩)

theorem entered_mergeReference (uid : String) (reference : Document) (references : List Document) :
    Entered uid reference references (mergeReference uid reference references) := by
  induction references with
  | nil => exact .appended nofun
  | cons r rest ih =>
    by_cases same : r.textField "uid" = uid
    · have first : ∀ other ∈ ([] : List Document), other.textField "uid" ≠ uid := nofun
      rw [mergeReference, if_pos same]
      exact .replaced same first
    · rw [mergeReference, if_neg same]
      exact ih.cons same

theorem entriesOf_mergeReference (identified : reference.textField "uid" = uid)
    (references : List Document) :
    entriesOf uid (mergeReference uid reference references) = max 1 (entriesOf uid references) := by
  simp only [entriesOf]
  induction references with
  | nil => simp [mergeReference, identified]
  | cons r rest ih =>
    by_cases same : r.textField "uid" = uid
    · simp only [mergeReference, same, if_true, List.countP_cons, identified, decide_true]
      omega
    · simpa [mergeReference, same] using ih

/-- With no other controllers in the list, an entry that is the only one of its owner is also the
only controller. -/
theorem soleController_iff (identified : reference.textField "uid" = uid)
    (mem : reference ∈ references)
    (own : ∀ r ∈ references, isController r = true → r.textField "uid" = uid) :
    SoleController uid reference references ↔ entriesOf uid references = 1 := by
  have apart (before after : List Document) :
      entriesOf uid (before ++ reference :: after) = 1 ↔
        ∀ other ∈ before ++ after, other.textField "uid" ≠ uid := by
    have counted : entriesOf uid (before ++ reference :: after) =
        entriesOf uid (before ++ after) + 1 := by
      simp only [entriesOf, List.countP_append, List.countP_cons, identified, decide_true, if_true]
      omega
    rw [counted, Nat.add_eq_right, entriesOf, List.countP_eq_zero]
    simp
  constructor
  · rintro ⟨before, after, rfl, others⟩
    exact (apart before after).2 fun other there => (others other there).1
  · intro once
    obtain ⟨before, after, rfl⟩ := List.append_of_mem mem
    refine ⟨before, after, rfl, fun other there => ?_⟩
    have foreign := (apart before after).1 once other there
    refine ⟨foreign, Bool.eq_false_iff.2 fun controls => foreign (own other ?_ controls)⟩
    rw [List.mem_append] at there ⊢
    exact there.imp_right (List.mem_cons_of_mem reference)

end References

section Stage

variable {composite x y : Document}

/-- The first of the other controllers is named in the refusal. -/
theorem renderMetadata_of_first {r : Document} (shaped : WellShaped composite)
    (first : FirstWith (ForeignController (ownUid composite)) (ownerReferences x) r)
    (resourceName : Option String) :
    renderMetadata composite resourceName x = .fail (conflictWith x r) x := by
  have known : textAt composite uidPath = .ok (carried composite uidPath) :=
    textAt_of_readable (shaped.readable "uid")
  have conflict := claimControl_of_first known first
  rw [renderMetadata, withMetadata_of_claim_error composite x conflict, Outcome.ofExcept_error]

theorem exists_tiedTo_of_own (shaped : WellShaped composite) (object : x.isObject = true)
    (own : ∀ r ∈ ownerReferences x, ¬ ForeignController (ownUid composite) r)
    (resourceName : Option String) :
    ∃ y, renderMetadata composite resourceName x = .done y ∧
      TiedTo composite resourceName x y := by
  refine ⟨_, Outcome.ofExcept_eq_done_iff.2 ?_, tiedTo_seedAll composite resourceName x⟩
  exact withMetadata_eq_ok_iff_seedAll.2
    ⟨shaped, object, not_controlledByOther_iff.2 own, rfl⟩

/-- For a composite of the right shape and a document that is an object, the metadata stage is
refused for another controller if and only if an owner reference makes one, and then it names the
first of these. Else it succeeds and enters the composite among the owner references; no other entry
changes or moves, and every controller is the composite. -/
theorem renderMetadata_owners (shaped : WellShaped composite) (object : x.isObject = true)
    (resourceName : Option String) :
    ((∃ e, (renderMetadata composite resourceName x).result = .error e ∧ e.OfConflict) ↔
        ∃ r ∈ ownerReferences x, ForeignController (ownUid composite) r) ∧
      (∀ r, FirstWith (ForeignController (ownUid composite)) (ownerReferences x) r →
        renderMetadata composite resourceName x = .fail (conflictWith x r) x) ∧
      ((∀ r ∈ ownerReferences x, ¬ ForeignController (ownUid composite) r) →
        ∃ y references, renderMetadata composite resourceName x = .done y ∧
          y.get ownerReferencesPath = .ok (.array references) ∧
          Entered (ownUid composite) (controllerOf composite (ownUid composite))
            (ownerReferences x) references ∧
          ∀ r ∈ references, isController r = true → r.textField "uid" = ownUid composite) := by
  refine ⟨⟨?_, ?_⟩, fun r first => renderMetadata_of_first shaped first resourceName,
    fun own => ?_⟩
  · rintro ⟨e, failed, -⟩
    refine Classical.byContradiction fun unopposed => ?_
    obtain ⟨y, done, -⟩ := exists_tiedTo_of_own shaped object
      (fun r mem foreign => unopposed ⟨r, mem, foreign⟩) resourceName
    rw [done] at failed
    cases failed
  · rintro ⟨r, mem, foreign⟩
    obtain ⟨first, isFirst⟩ := FirstWith.exists mem foreign
    rw [renderMetadata_of_first shaped isFirst]
    exact ⟨_, rfl, _, _, _, _, rfl⟩
  · obtain ⟨y, done, tied⟩ := exists_tiedTo_of_own shaped object own resourceName
    exact ⟨y, _, done, tied.owners, entered_mergeReference _ _ _,
      own_of_mem_mergeReference (not_controlledByOther_iff.2 own) (textField_uid_controllerOf ..)⟩

open ComposedTemplate (site)

/-- An owner reference as it may stand in a composed document. -/
def ownedBy (uid : String) (controller : Bool) : Document :=
  .object [("controller", .bool controller), ("uid", .string uid)]

def bucketOf (references : List Document) : Document :=
  .object [("metadata", .object [("ownerReferences", .array references)])]

/-- A bucket with two references to the composite, both as a controller, behind another owner. -/
def twiceOwnedBucket : Document := bucketOf [ownedBy "5" false, ownedBy "7" true, ownedBy "7" true]

/-- A bucket with two other controllers. -/
def contestedBucket : Document := bucketOf [ownedBy "7" true, ownedBy "8" true, ownedBy "9" true]

theorem wellShaped_site : WellShaped site := by
  refine ⟨rfl, fun v read => ?_, fun v read => ?_⟩
  · cases read
    rfl
  · cases read

theorem renderMetadata_owners_buckets :
    WellShaped site ∧ contestedBucket.isObject = true ∧ twiceOwnedBucket.isObject = true ∧
      renderMetadata site none contestedBucket =
        .fail (conflictWith contestedBucket (ownedBy "8" true)) contestedBucket ∧
      ∃ y references, renderMetadata site none twiceOwnedBucket = .done y ∧
        y.get ownerReferencesPath = .ok (.array references) ∧
        Entered "7" (controllerOf site "7") (ownerReferences twiceOwnedBucket) references := by
  obtain ⟨-, refused, -⟩ := renderMetadata_owners wellShaped_site (x := contestedBucket) rfl none
  obtain ⟨-, -, entered⟩ := renderMetadata_owners wellShaped_site (x := twiceOwnedBucket) rfl none
  have first : FirstWith (ForeignController "7") (ownerReferences contestedBucket)
      (ownedBy "8" true) :=
    ⟨[ownedBy "7" true], [ownedBy "9" true], rfl, by decide, by decide⟩
  have none_foreign : ∀ r ∈ ownerReferences twiceOwnedBucket, ¬ ForeignController "7" r := by decide
  obtain ⟨y, references, done, read, merged, -⟩ := entered none_foreign
  exact ⟨wellShaped_site, rfl, rfl, refused _ first, y, references, done, read, merged⟩

/-- Where the metadata stage succeeds, the composite is a controller and no other owner is one. Its
reference is the only entry with its identifier and the only controller among the entries if and
only if at most one entry had that identifier before. -/
theorem renderMetadata_soleController_iff {resourceName : Option String}
    (done : renderMetadata composite resourceName x = .done y) :
    ∃ references, y.get ownerReferencesPath = .ok (.array references) ∧
      controllerOf composite (ownUid composite) ∈ references ∧
      (∀ r ∈ references, isController r = true → r.textField "uid" = ownUid composite) ∧
      (SoleController (ownUid composite) (controllerOf composite (ownUid composite)) references ↔
        entriesOf (ownUid composite) (ownerReferences x) ≤ 1) := by
  obtain ⟨-, -, own, rfl⟩ :=
    withMetadata_eq_ok_iff_seedAll.1 (Outcome.ofExcept_eq_done_iff.1 done)
  have entered : controllerOf composite (ownUid composite) ∈ claimedReferences composite x :=
    mem_mergeReference _ _ _
  have controllers : ∀ r ∈ claimedReferences composite x, isController r = true →
      r.textField "uid" = ownUid composite :=
    own_of_mem_mergeReference own (textField_uid_controllerOf ..)
  refine ⟨_, (tiedTo_seedAll composite resourceName x).owners, entered, controllers, ?_⟩
  rw [soleController_iff (textField_uid_controllerOf ..) entered controllers, claimedReferences,
    entriesOf_mergeReference (textField_uid_controllerOf ..)]
  omega

theorem renderMetadata_soleController_iff_ownedBucket :
    ∃ y references,
      renderMetadata site none (bucketOf [ownedBy "5" false, ownedBy "7" false]) = .done y ∧
        y.get ownerReferencesPath = .ok (.array references) ∧
        SoleController "7" (controllerOf site "7") references := by
  let y := (renderMetadata site none (bucketOf [ownedBy "5" false, ownedBy "7" false])).state
  have done : renderMetadata site none (bucketOf [ownedBy "5" false, ownedBy "7" false]) =
      .done y := rfl
  obtain ⟨references, read, -, -, sole⟩ := renderMetadata_soleController_iff done
  exact ⟨y, references, done, read, sole.2 (by decide)⟩

/-- A second reference to the composite stays in place, and with it a second controller. -/
theorem renderMetadata_keeps_second_reference :
    ownUid site = "7" ∧ ∃ y references, renderMetadata site none twiceOwnedBucket = .done y ∧
      y.get ownerReferencesPath = .ok (.array references) ∧ entriesOf "7" references = 2 ∧
      references.countP isController = 2 ∧
      ¬ SoleController "7" (controllerOf site "7") references := by
  let references := [ownedBy "5" false, controllerOf site "7", ownedBy "7" true]
  have twice : entriesOf "7" references = 2 := by decide
  refine ⟨rfl, _, references, rfl, rfl, twice, by decide, fun sole => ?_⟩
  have once := (soleController_iff (textField_uid_controllerOf ..) (by decide) (by decide)).1 sole
  rw [twice] at once
  cases once

end Stage

end ResourceLoom.Render
