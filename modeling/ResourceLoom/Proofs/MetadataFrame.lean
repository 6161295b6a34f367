import ResourceLoom.Proofs.ControllerConflicts

/-! # What the metadata stage owns

The metadata stage writes at six paths, which part from each other at fields. Whether it succeeds is
decided by the shape of the composite, by the composed document being an object and by its owner
references, before anything is written. If it does, each of the six paths leads to what the stage
takes from the composite and the template, or to what was there before, and nothing beside them has
changed. A second run finds all of it in place.
-/
namespace ResourceLoom.Render

open Document (SameAt SeededAt)

variable {composite x y : Document} {resourceName : Option String}

/-- The labels that a composed resource takes over from its composite. -/
def copiedLabels : List String := [compositeLabel, claimNameLabel, claimNamespaceLabel]

/-- The paths that the metadata stage may write. -/
def ownedPaths : List Path :=
  generateNamePath ::
    (copiedLabels.map labelPath ++ [annotationPath resourceNameAnnotation, ownerReferencesPath])

/-- The identifier by which the composite is told from other owners; empty when it has none. -/
def ownUid (composite : Document) : String := (carried composite uidPath).getD ""

/-- The prefix of generated names: the name of the composite and a dash. -/
def namePrefix (composite : Document) : Option Document :=
  (carried composite (labelPath compositeLabel)).map fun name => .string (name ++ "-")

def copiedLabel (composite : Document) (key : String) : Option Document :=
  (carried composite (labelPath key)).map .string

/-- The owner references of the document with the composite merged in. -/
def claimedReferences (composite x : Document) : List Document :=
  mergeReference (ownUid composite) (controllerOf composite (ownUid composite)) (ownerReferences x)

/-- What the metadata stage writes into the document, and at each path if anything. -/
def metadataSeeds (composite : Document) (resourceName : Option String) (x : Document) :
    List Seed :=
  (generateNamePath, namePrefix composite) ::
    (copiedLabels.map (fun key => (labelPath key, copiedLabel composite key)) ++
      [(annotationPath resourceNameAnnotation, resourceName.map .string),
        (ownerReferencesPath, some (.array (claimedReferences composite x)))])

theorem metadataSeeds_paths (composite : Document) (resourceName : Option String)
    (x : Document) : (metadataSeeds composite resourceName x).map Prod.fst = ownedPaths := rfl

/-- No path of the metadata stage lies below another one. -/
theorem pairwise_metadataSeeds (composite : Document) (resourceName : Option String)
    (x : Document) : (metadataSeeds composite resourceName x).Pairwise
      fun first second => first.1.PartsAtFields second.1 := by
  simp [metadataSeeds, copiedLabels, generateNamePath, labelPath, annotationPath,
    ownerReferencesPath, fieldPath, compositeLabel, claimNameLabel, claimNamespaceLabel,
    Path.partsAtFields_cons]

section Objects

variable {name : String} {names : List String}

theorem isObject_of_put_some {v : Document}
    (made : put (fieldPath (name :: names)) (some v) x = .ok y) : x.isObject = true := by
  have writable : x.Writable (fieldPath (name :: names)) := by
    refine Classical.byContradiction fun refused => ?_
    obtain ⟨e, failed⟩ := Document.set_of_not_writable refused v
    rw [put, failed] at made
    cases made
  exact (Document.isObject_iff_accepts name).2 writable.root

/-- Only an object lets itself be made into one. -/
theorem isObject_of_put {v : Option Document}
    (made : put (fieldPath (name :: names)) v x = .ok y) (hy : y.isObject = true) :
    x.isObject = true := by
  cases v with
  | none =>
    cases made
    exact hy
  | some v => exact isObject_of_put_some made

theorem isObject_of_copyLabel {key : String} (made : copyLabel composite key x = .ok y)
    (hy : y.isObject = true) : x.isObject = true := by
  obtain ⟨value, -, written⟩ := Outcome.exists_of_bind_ok made
  exact isObject_of_put written hy

theorem isObject_of_withMetadata (made : withMetadata composite resourceName x = .ok y) :
    x.isObject = true := by
  obtain ⟨references, -, made⟩ := Outcome.exists_of_bind_ok made
  obtain ⟨owner, -, made⟩ := Outcome.exists_of_bind_ok made
  obtain ⟨named, first, made⟩ := Outcome.exists_of_bind_ok made
  obtain ⟨owned, second, made⟩ := Outcome.exists_of_bind_ok made
  obtain ⟨claimed, third, made⟩ := Outcome.exists_of_bind_ok made
  obtain ⟨placed, fourth, made⟩ := Outcome.exists_of_bind_ok made
  obtain ⟨noted, fifth, made⟩ := Outcome.exists_of_bind_ok made
  have notedObject : noted.isObject = true := isObject_of_put_some made
  have placedObject : placed.isObject = true := isObject_of_put fifth notedObject
  have ownedObject : owned.isObject = true :=
    isObject_of_copyLabel third (isObject_of_copyLabel fourth placedObject)
  exact isObject_of_put first (isObject_of_copyLabel second ownedObject)

end Objects

/-- The metadata stage succeeds for a composite of the right shape and an object that nothing else
controls, and then it makes its writes. -/
theorem withMetadata_eq_ok_iff_seedAll : withMetadata composite resourceName x = .ok y ↔
    WellShaped composite ∧ x.isObject = true ∧ ¬ ControlledByOther (ownUid composite) x ∧
      y = x.seedAll (metadataSeeds composite resourceName x) := by
  have known (shaped : WellShaped composite) :
      textAt composite uidPath = .ok (carried composite uidPath) :=
    textAt_of_readable (shaped.readable "uid")
  have label (shaped : WellShaped composite) (key : String) :
      textAt composite (labelPath key) = .ok (carried composite (labelPath key)) :=
    textAt_of_readable (readable_labelPath_iff.2 shaped)
  have writes : x.putAll (metadataWrites (carried composite (labelPath compositeLabel))
      (carried composite (labelPath claimNameLabel))
      (carried composite (labelPath claimNamespaceLabel)) resourceName
      (claimedReferences composite x)) = x.seedAll (metadataSeeds composite resourceName x) := by
    rw [Document.seedAll_eq_putAll]
    simp [metadataWrites, metadataSeeds, copiedLabels, namePrefix, copiedLabel,
      Document.writeIfSome]
  constructor
  · intro made
    have object : x.isObject = true := isObject_of_withMetadata made
    obtain ⟨references, owner, claim, space, claimed, first, second, third, rfl⟩ :=
      (withMetadata_eq_ok_iff object).1 made
    have shaped : WellShaped composite := readable_labelPath_iff.1 (textAt_eq_ok_iff.1 first).1
    have own : ¬ ControlledByOther (ownUid composite) x := fun other => by
      obtain ⟨conflict, refused, -⟩ := claimControl_of_other (known shaped) other
      rw [refused] at claimed
      cases claimed
    rw [claimControl_of_own (known shaped) own] at claimed
    obtain rfl := (textAt_eq_ok_iff.1 first).2
    obtain rfl := (textAt_eq_ok_iff.1 second).2
    obtain rfl := (textAt_eq_ok_iff.1 third).2
    cases claimed
    exact ⟨shaped, object, own, writes⟩
  · rintro ⟨shaped, object, own, rfl⟩
    refine (withMetadata_eq_ok_iff object).2 ⟨_, _, _, _,
      claimControl_of_own (known shaped) own, label shaped _, label shaped _, label shaped _, ?_⟩
    exact writes.symm

/-- The composed resource has been tied to the composite, and nothing else has changed. -/
structure TiedTo (composite : Document) (resourceName : Option String) (x y : Document) :
    Prop where
  beside : ∀ path, (∀ owned ∈ ownedPaths, owned.PartsAtFields path) → SameAt path x y
  generateName : SeededAt generateNamePath (namePrefix composite) x y
  labels : ∀ key ∈ copiedLabels, SeededAt (labelPath key) (copiedLabel composite key) x y
  annotation :
    SeededAt (annotationPath resourceNameAnnotation) (resourceName.map .string) x y
  owners : y.get ownerReferencesPath = .ok (.array (claimedReferences composite x))

theorem tiedTo_seedAll (composite : Document) (resourceName : Option String) (x : Document) :
    TiedTo composite resourceName x (x.seedAll (metadataSeeds composite resourceName x)) := by
  have seeded {path : Path} {given : Option Document}
      (mem : (path, given) ∈ metadataSeeds composite resourceName x) :
      SeededAt path given x (x.seedAll (metadataSeeds composite resourceName x)) :=
    Document.seededAt_iff_reach.2
      (Document.reach_seedAll_of_mem (pairwise_metadataSeeds composite resourceName x) mem x)
  have owned {seed : Seed} (mem : seed ∈ metadataSeeds composite resourceName x) :
      seed.1 ∈ ownedPaths := by
    rw [← metadataSeeds_paths composite resourceName x]
    exact List.mem_map_of_mem mem
  constructor
  · intro path apart
    have kept := Document.reach_seedAll_of_parts (fun seed mem => apart seed.1 (owned mem)) x
    exact Document.sameAt_iff_reach.2 kept.symm
  · exact seeded (by simp [metadataSeeds])
  · intro key mem
    exact seeded (List.mem_cons_of_mem _ (List.mem_append_left _ (List.mem_map_of_mem mem)))
  · exact seeded (by simp [metadataSeeds])
  · exact (seeded (by simp [metadataSeeds])).written _ rfl

/-- The stage run again finds its work done. -/
theorem withMetadata_of_withMetadata (made : withMetadata composite resourceName x = .ok y) :
    withMetadata composite resourceName y = .ok y := by
  obtain ⟨shaped, object, own, left⟩ := withMetadata_eq_ok_iff_seedAll.1 made
  have known : textAt composite uidPath = .ok (carried composite uidPath) :=
    textAt_of_readable (shaped.readable "uid")
  have merged : ownerReferences y = claimedReferences composite x :=
    ownerReferences_withMetadata object (claimControl_of_own known own) made
  have again : claimedReferences composite y = claimedReferences composite x := by
    rw [claimedReferences, merged, claimedReferences, mergeReference_mergeReference (by simp)]
  have same : metadataSeeds composite resourceName y = metadataSeeds composite resourceName x := by
    simp only [metadataSeeds, again]
  have stillObject : y.isObject = true := by
    obtain ⟨_, _, _, _, -, -, -, -, rfl⟩ := (withMetadata_eq_ok_iff object).1 made
    exact isObject_putAll_metadataWrites ..
  refine withMetadata_eq_ok_iff_seedAll.2
    ⟨shaped, stillObject, (controlledBy_of_merged own merged).2, ?_⟩
  rw [same, left, Document.seedAll_seedAll]

/-- The metadata stage succeeds if and only if the composite has the right shape and the composed
document is an object that nothing else controls; else it leaves the document as it is. If it
succeeds, it has tied the document to the composite and changed nothing beside that, and running it
again changes nothing at all. -/
theorem renderMetadata_outcome (composite : Document) (resourceName : Option String)
    (x : Document) :
    ((renderMetadata composite resourceName x).result = .ok () ↔
        WellShaped composite ∧ x.isObject = true ∧ ¬ ControlledByOther (ownUid composite) x) ∧
      (∀ e, (renderMetadata composite resourceName x).result = .error e →
        (renderMetadata composite resourceName x).state = x) ∧
      ∀ y, renderMetadata composite resourceName x = .done y →
        TiedTo composite resourceName x y ∧ renderMetadata composite resourceName y = .done y := by
  rw [renderMetadata]
  refine ⟨⟨fun ok => ?_, ?_⟩, fun e failed => ?_, fun y done => ?_⟩
  · obtain ⟨y, made⟩ := Outcome.exists_of_ofExcept_ok ok
    obtain ⟨shaped, object, own, -⟩ := withMetadata_eq_ok_iff_seedAll.1 made
    exact ⟨shaped, object, own⟩
  · rintro ⟨shaped, object, own⟩
    rw [withMetadata_eq_ok_iff_seedAll.2 ⟨shaped, object, own, rfl⟩, Outcome.ofExcept_ok,
      Outcome.result_done]
  · rw [Outcome.error_of_ofExcept_error failed, Outcome.ofExcept_error, Outcome.state_fail]
  · obtain ⟨z, made⟩ := Outcome.exists_of_ofExcept_ok (congrArg Outcome.result done)
    rw [made, Outcome.ofExcept_ok] at done
    obtain rfl : z = y := congrArg Outcome.state done
    obtain ⟨-, -, -, left⟩ := withMetadata_eq_ok_iff_seedAll.1 made
    refine ⟨left ▸ tiedTo_seedAll composite resourceName x, ?_⟩
    rw [renderMetadata, withMetadata_of_withMetadata made, Outcome.ofExcept_ok]

/-- Metadata that is no object gives way, in the composed document only. -/
example : renderMetadata ComposedTemplate.site none (.object [("metadata", .string "none")]) =
    .done (.object [("metadata", .object [
      ("ownerReferences", .array [controllerOf ComposedTemplate.site "7"])])]) := rfl

end ResourceLoom.Render
