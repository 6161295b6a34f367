import Mathlib.Data.List.Forall2
import ResourceLoom.Composition.Inline
import ResourceLoom.Proofs.FirstElements

/-! # Splicing of patch sets

What inlining makes of a specification, said without running it: a reference to a set gives way to
the patches of the last set under its name, every other patch stands for itself, and the order of
the template is kept. A set that refers to a set is reported before any reference is looked at, and
of several bad references the first one of the first template that has any.
-/
namespace ResourceLoom

/-- A patch of the set refers to a set. -/
def PatchSet.Nested (set : PatchSet) : Prop := ∃ patch ∈ set.patches, patch.type = .patchSet

namespace CompositionSpec

/-- The set is the last one that is declared under the name. -/
def LastNamed (spec : CompositionSpec) (name : String) (set : PatchSet) : Prop :=
  ∃ before after, spec.patchSets = before ++ set :: after ∧ set.name = name ∧
    ∀ other ∈ after, other.name ≠ name

/-- The patches that a patch of a template gives way to. -/
inductive Splices (spec : CompositionSpec) (patch : Patch) : List Patch → Prop where
  | itself (plain : patch.type ≠ .patchSet) : Splices spec patch [patch]
  | setPatches {name : String} {set : PatchSet} (reference : patch.type = .patchSet)
      (named : patch.patchSetName = some name) (last : spec.LastNamed name set) :
      Splices spec patch set.patches

/-- What is wrong with a reference to a set. -/
inductive BadReference (spec : CompositionSpec) (patch : Patch) : Cause → Prop where
  | unnamed (reference : patch.type = .patchSet) (unnamed : patch.patchSetName = none) :
      BadReference spec patch (.requiredField "patchSetName" "PatchSet")
  | undefined {name : String} (reference : patch.type = .patchSet)
      (named : patch.patchSetName = some name) (absent : ∀ set ∈ spec.patchSets, set.name ≠ name) :
      BadReference spec patch (.undefinedPatchSet name)

/-- The patch is a reference for which no patches stand. -/
def Unresolved (spec : CompositionSpec) (patch : Patch) : Prop :=
  ∃ cause, spec.BadReference patch cause

variable {spec : CompositionSpec}

section Sets

variable {name : String} {set : PatchSet} {patches : List Patch}

theorem patchesOf?_eq_some_iff : spec.patchesOf? name = some patches ↔
    ∃ set, spec.LastNamed name set ∧ set.patches = patches := by
  simp only [patchesOf?, Option.map_eq_some_iff, List.find?_eq_some_iff_append, LastNamed]
  constructor
  · rintro ⟨set, ⟨named, after, before, split, others⟩, same⟩
    have forwards : spec.patchSets = before.reverse ++ set :: after.reverse := by
      rw [← List.reverse_reverse spec.patchSets, split]
      simp
    refine ⟨set, ⟨before.reverse, after.reverse, forwards, by simpa using named, ?_⟩, same⟩
    intro other mem
    simpa using others other (List.mem_reverse.1 mem)
  · rintro ⟨set, ⟨before, after, split, named, others⟩, same⟩
    refine ⟨set, ⟨by simpa using named, after.reverse, before.reverse, by simp [split], ?_⟩, same⟩
    intro other mem
    simpa using others other (List.mem_reverse.1 mem)

theorem patchesOf?_eq_none_iff :
    spec.patchesOf? name = none ↔ ∀ set ∈ spec.patchSets, set.name ≠ name := by
  simp [patchesOf?]

theorem nestedSet?_eq_none_iff :
    spec.nestedSet? = none ↔ ∀ set ∈ spec.patchSets, ¬ set.Nested := by
  simp [nestedSet?, PatchSet.Nested]

theorem nestedSet?_eq_some_iff :
    spec.nestedSet? = some set ↔ FirstWith PatchSet.Nested spec.patchSets set :=
  find?_eq_some_iff_firstWith fun set => by simp [PatchSet.Nested]

end Sets

section Patches

variable {patch : Patch} {patches : List Patch} {name : String} {cause : Cause}

theorem expand_of_plain (plain : patch.type ≠ .patchSet) : spec.expand patch = .ok [patch] := by
  rw [expand, if_pos plain]

theorem expand_unnamed (reference : patch.type = .patchSet) (unnamed : patch.patchSetName = none) :
    spec.expand patch = .error (.ofCause (.requiredField "patchSetName" "PatchSet")) := by
  simp [expand, reference, unnamed, PatchType.name]

theorem expand_named (reference : patch.type = .patchSet)
    (named : patch.patchSetName = some name) :
    spec.expand patch = match spec.patchesOf? name with
      | some patches => .ok patches
      | none => .error (.ofCause (.undefinedPatchSet name)) := by
  cases found : spec.patchesOf? name <;> simp [expand, reference, named, found]

/-- A patch is spliced or it is a bad reference, and expanding it says which. -/
theorem expand_cases (spec : CompositionSpec) (patch : Patch) :
    (∃ patches, spec.expand patch = .ok patches ∧ spec.Splices patch patches) ∨
    ∃ cause, spec.expand patch = .error (.ofCause cause) ∧ spec.BadReference patch cause := by
  by_cases reference : patch.type = .patchSet
  · cases named : patch.patchSetName with
    | none => exact .inr ⟨_, expand_unnamed reference named, .unnamed reference named⟩
    | some name =>
      have expanded : spec.expand patch = _ := expand_named reference named
      cases found : spec.patchesOf? name with
      | none =>
        rw [found] at expanded
        exact .inr ⟨_, expanded, .undefined reference named (patchesOf?_eq_none_iff.1 found)⟩
      | some patches =>
        rw [found] at expanded
        obtain ⟨set, last, rfl⟩ := patchesOf?_eq_some_iff.1 found
        exact .inl ⟨_, expanded, .setPatches reference named last⟩
  · exact .inl ⟨_, expand_of_plain reference, .itself reference⟩

theorem expand_of_badReference (h : spec.BadReference patch cause) :
    spec.expand patch = .error (.ofCause cause) := by
  cases h with
  | unnamed reference unnamed => exact expand_unnamed reference unnamed
  | undefined reference named absent =>
    rw [expand_named reference named, patchesOf?_eq_none_iff.2 absent]

theorem expandAll_cons (patch : Patch) (rest : List Patch) : spec.expandAll (patch :: rest) =
    (spec.expand patch).bind fun patches => (spec.expandAll rest).map (patches ++ ·) := by
  rw [expandAll]
  cases spec.expand patch <;> cases spec.expandAll rest <;> rfl

theorem expandAll_append (patches others : List Patch) : spec.expandAll (patches ++ others) =
    (spec.expandAll patches).bind fun first => (spec.expandAll others).map (first ++ ·) := by
  induction patches with
  | nil =>
    rw [List.nil_append, expandAll]
    cases spec.expandAll others <;> rfl
  | cons patch rest ih =>
    rw [List.cons_append, expandAll_cons, expandAll_cons, ih]
    cases spec.expand patch with
    | error e => rfl
    | ok spliced =>
      cases spec.expandAll rest with
      | error e => rfl
      | ok first => cases spec.expandAll others <;> simp [Except.bind, Except.map]

theorem not_unresolved_iff : ¬ spec.Unresolved patch ↔ (patch.type = .patchSet →
    ∃ name, patch.patchSetName = some name ∧ ∃ set ∈ spec.patchSets, set.name = name) := by
  constructor
  · intro resolved reference
    cases named : patch.patchSetName with
    | none => exact absurd ⟨_, .unnamed reference named⟩ resolved
    | some name =>
      refine ⟨name, rfl, ?_⟩
      by_contra absent
      refine resolved ⟨_, .undefined reference named fun set mem same => absent ⟨set, mem, same⟩⟩
  · rintro named ⟨cause, bad⟩
    cases bad with
    | unnamed reference unnamed =>
      obtain ⟨name, given, -⟩ := named reference
      rw [unnamed] at given
      cases given
    | undefined reference given absent =>
      obtain ⟨name, given', set, mem, same⟩ := named reference
      rw [given] at given'
      cases given'
      exact absent set mem same

/-- Without bad references the parts for which the patches stand are joined in order. -/
theorem expandAll_of_resolved (resolved : ∀ patch ∈ patches, ¬ spec.Unresolved patch) :
    ∃ parts, List.Forall₂ spec.Splices patches parts ∧
      spec.expandAll patches = .ok parts.flatten := by
  induction patches with
  | nil => exact ⟨[], .nil, rfl⟩
  | cons patch rest ih =>
    obtain ⟨first, others⟩ := List.forall_mem_cons.1 resolved
    obtain ⟨parts, splices, expanded⟩ := ih others
    rcases expand_cases spec patch with ⟨part, done, spliced⟩ | ⟨cause, -, bad⟩
    · refine ⟨part :: parts, .cons spliced splices, ?_⟩
      rw [expandAll_cons, done, expanded]
      rfl
    · exact absurd ⟨cause, bad⟩ first

/-- The first bad reference is the one that is reported. -/
theorem expandAll_of_firstWith (first : FirstWith spec.Unresolved patches patch)
    (bad : spec.BadReference patch cause) :
    spec.expandAll patches = .error (.ofCause cause) := by
  obtain ⟨before, after, rfl, -, resolved⟩ := first
  obtain ⟨parts, -, expanded⟩ := expandAll_of_resolved resolved
  rw [expandAll_append, expanded, expandAll_cons, expand_of_badReference bad]
  rfl

theorem expandAll_cases (spec : CompositionSpec) (patches : List Patch) :
    ((∀ patch ∈ patches, ¬ spec.Unresolved patch) ∧ ∃ parts,
      List.Forall₂ spec.Splices patches parts ∧ spec.expandAll patches = .ok parts.flatten) ∨
    ∃ patch cause, FirstWith spec.Unresolved patches patch ∧ spec.BadReference patch cause ∧
      spec.expandAll patches = .error (.ofCause cause) := by
  by_cases resolved : ∀ patch ∈ patches, ¬ spec.Unresolved patch
  · exact .inl ⟨resolved, expandAll_of_resolved resolved⟩
  · simp only [not_forall, not_not] at resolved
    obtain ⟨patch, mem, unresolved⟩ := resolved
    obtain ⟨first, found⟩ := FirstWith.exists mem unresolved
    obtain ⟨cause, bad⟩ : spec.Unresolved first := found.elim fun _ h => h.elim fun _ h => h.2.1
    exact .inr ⟨first, cause, found, bad, expandAll_of_firstWith found bad⟩

/-- What is spliced into a template in place of its patches. -/
theorem splices_of_expandAll {list : List Patch} (h : spec.expandAll patches = .ok list) :
    ∃ parts, List.Forall₂ spec.Splices patches parts ∧ list = parts.flatten := by
  rcases expandAll_cases spec patches with ⟨-, parts, splices, done⟩ | ⟨patch, cause, -, -, failed⟩
  · rw [done] at h
    cases h
    exact ⟨parts, splices, rfl⟩
  · rw [failed] at h
    cases h

end Patches

section Templates

variable {patch : Patch} {set : PatchSet} {templates : List ComposedTemplate}
  {lists : List (List Patch)} {cause : Cause} {e : Error}

theorem expandTemplates_cons (template : ComposedTemplate) (rest : List ComposedTemplate) :
    spec.expandTemplates (template :: rest) = (spec.expandAll template.patches).bind fun patches =>
      (spec.expandTemplates rest).map (patches :: ·) := by
  rw [expandTemplates]
  cases spec.expandAll template.patches <;> cases spec.expandTemplates rest <;> rfl

/-- The templates are expanded as if their patches were one list. -/
theorem map_flatten_expandTemplates (spec : CompositionSpec) (templates : List ComposedTemplate) :
    (spec.expandTemplates templates).map List.flatten =
      spec.expandAll (templates.flatMap (·.patches)) := by
  induction templates with
  | nil => rfl
  | cons template rest ih =>
    rw [List.flatMap_cons, expandTemplates_cons, expandAll_append, ← ih]
    cases spec.expandAll template.patches with
    | error e => rfl
    | ok patches => cases spec.expandTemplates rest <;> simp [Except.bind, Except.map]

theorem forall₂_of_expandTemplates
    (h : spec.expandTemplates templates = .ok lists) : List.Forall₂
      (fun template list => spec.expandAll template.patches = .ok list) templates lists := by
  induction templates generalizing lists with
  | nil =>
    cases h
    exact .nil
  | cons template rest ih =>
    rw [expandTemplates_cons] at h
    cases first : spec.expandAll template.patches with
    | error e =>
      rw [first] at h
      cases h
    | ok patches =>
      cases further : spec.expandTemplates rest with
      | error e =>
        rw [first, further] at h
        cases h
      | ok others =>
        rw [first, further] at h
        cases h
        exact .cons first (ih further)

theorem templatePatches_of_nested (first : FirstWith PatchSet.Nested spec.patchSets set) :
    spec.templatePatches = .error (.ofCause (.nestedPatchSet set.name)) := by
  rw [templatePatches, nestedSet?_eq_some_iff.2 first]

theorem templatePatches_of_flat (flat : ∀ set ∈ spec.patchSets, ¬ set.Nested) :
    spec.templatePatches = spec.expandTemplates spec.resources := by
  rw [templatePatches, nestedSet?_eq_none_iff.2 flat]

theorem flat_of_templatePatches (done : spec.templatePatches = .ok lists) :
    ∀ set ∈ spec.patchSets, ¬ set.Nested := by
  unfold templatePatches at done
  split at done
  · cases done
  · next flat => exact nestedSet?_eq_none_iff.1 flat

theorem templatePatches_of_resolved (flat : ∀ set ∈ spec.patchSets, ¬ set.Nested)
    (resolved : ∀ patch ∈ spec.resources.flatMap (·.patches), ¬ spec.Unresolved patch) :
    ∃ lists, spec.templatePatches = .ok lists := by
  obtain ⟨parts, -, done⟩ := expandAll_of_resolved resolved
  have joined := map_flatten_expandTemplates spec spec.resources
  rw [templatePatches_of_flat flat]
  rw [done] at joined
  cases expanded : spec.expandTemplates spec.resources with
  | ok lists => exact ⟨lists, rfl⟩
  | error e =>
    rw [expanded] at joined
    cases joined

theorem templatePatches_of_badReference (flat : ∀ set ∈ spec.patchSets, ¬ set.Nested)
    (first : FirstWith spec.Unresolved (spec.resources.flatMap (·.patches)) patch)
    (bad : spec.BadReference patch cause) : spec.templatePatches = .error (.ofCause cause) := by
  have failed := expandAll_of_firstWith first bad
  have joined := map_flatten_expandTemplates spec spec.resources
  rw [templatePatches_of_flat flat]
  rw [failed] at joined
  cases expanded : spec.expandTemplates spec.resources with
  | ok lists =>
    rw [expanded] at joined
    cases joined
  | error e =>
    rw [expanded] at joined
    cases joined
    rfl

/-- A specification has a nested set, or all its references are good, or one of them is bad. -/
theorem first_fault_cases (spec : CompositionSpec) :
    (∃ set, FirstWith PatchSet.Nested spec.patchSets set) ∨
    (∀ set ∈ spec.patchSets, ¬ set.Nested) ∧
      ((∀ patch ∈ spec.resources.flatMap (·.patches), ¬ spec.Unresolved patch) ∨
      ∃ patch cause, FirstWith spec.Unresolved (spec.resources.flatMap (·.patches)) patch ∧
        spec.BadReference patch cause) := by
  by_cases flat : ∀ set ∈ spec.patchSets, ¬ set.Nested
  · refine .inr ⟨flat, ?_⟩
    rcases expandAll_cases spec (spec.resources.flatMap (·.patches)) with
      ⟨resolved, -⟩ | ⟨patch, cause, first, bad, -⟩
    · exact .inl resolved
    · exact .inr ⟨patch, cause, first, bad⟩
  · simp only [not_forall, not_not] at flat
    obtain ⟨set, mem, nested⟩ := flat
    exact .inl (FirstWith.exists mem nested)

theorem templatePatches_spliced (h : spec.templatePatches = .ok lists) :
    List.Forall₂ (fun template list => ∃ parts,
      List.Forall₂ spec.Splices template.patches parts ∧ list = parts.flatten)
      spec.resources lists := by
  rw [templatePatches_of_flat (flat_of_templatePatches h)] at h
  exact (forall₂_of_expandTemplates h).imp fun template list expanded =>
    splices_of_expandAll expanded

theorem exists_templatePatches_iff : (∃ lists, spec.templatePatches = .ok lists) ↔
    (∀ set ∈ spec.patchSets, ¬ set.Nested) ∧
      ∀ patch ∈ spec.resources.flatMap (·.patches), ¬ spec.Unresolved patch := by
  constructor
  · rintro ⟨lists, done⟩
    refine ⟨flat_of_templatePatches done, ?_⟩
    rcases first_fault_cases spec with ⟨set, nested⟩ | ⟨flat, resolved | ⟨patch, cause, first, bad⟩⟩
    · rw [templatePatches_of_nested nested] at done
      cases done
    · exact resolved
    · rw [templatePatches_of_badReference flat first bad] at done
      cases done
  · rintro ⟨flat, resolved⟩
    exact templatePatches_of_resolved flat resolved

theorem templatePatches_eq_error_iff : spec.templatePatches = .error e ↔
    (∃ set, FirstWith PatchSet.Nested spec.patchSets set ∧
      e = .ofCause (.nestedPatchSet set.name)) ∨
    (∀ set ∈ spec.patchSets, ¬ set.Nested) ∧
      ∃ patch cause, FirstWith spec.Unresolved (spec.resources.flatMap (·.patches)) patch ∧
        spec.BadReference patch cause ∧ e = .ofCause cause := by
  constructor
  · intro failed
    rcases first_fault_cases spec with ⟨set, nested⟩ | ⟨flat, resolved | ⟨patch, cause, first, bad⟩⟩
    · rw [templatePatches_of_nested nested] at failed
      exact .inl ⟨set, nested, (Except.error.inj failed).symm⟩
    · obtain ⟨lists, done⟩ := templatePatches_of_resolved flat resolved
      rw [done] at failed
      cases failed
    · rw [templatePatches_of_badReference flat first bad] at failed
      exact .inr ⟨flat, patch, cause, first, bad, (Except.error.inj failed).symm⟩
  · rintro (⟨set, nested, rfl⟩ | ⟨flat, patch, cause, first, bad, rfl⟩)
    · exact templatePatches_of_nested nested
    · exact templatePatches_of_badReference flat first bad

end Templates

/-- Inlining succeeds when no set is nested and every reference names a set, and it splices then.
Else it reports the first nested set, or the first bad reference when no set is nested. -/
theorem templatePatches_exact (spec : CompositionSpec) :
    ((∃ lists, spec.templatePatches = .ok lists) ↔
      (∀ set ∈ spec.patchSets, ∀ patch ∈ set.patches, patch.type ≠ .patchSet) ∧
      ∀ template ∈ spec.resources, ∀ patch ∈ template.patches, patch.type = .patchSet →
        ∃ name, patch.patchSetName = some name ∧ ∃ set ∈ spec.patchSets, set.name = name) ∧
    (∀ lists, spec.templatePatches = .ok lists →
      List.Forall₂ (fun template list => ∃ parts,
        List.Forall₂ spec.Splices template.patches parts ∧ list = parts.flatten)
        spec.resources lists) ∧
    ∀ e, spec.templatePatches = .error e ↔
      (∃ set, FirstWith PatchSet.Nested spec.patchSets set ∧
        e = .ofCause (.nestedPatchSet set.name)) ∨
      (∀ set ∈ spec.patchSets, ¬ set.Nested) ∧
        ∃ patch cause, FirstWith spec.Unresolved (spec.resources.flatMap (·.patches)) patch ∧
          spec.BadReference patch cause ∧ e = .ofCause cause := by
  have flat_iff : (∀ set ∈ spec.patchSets, ¬ set.Nested) ↔
      ∀ set ∈ spec.patchSets, ∀ patch ∈ set.patches, patch.type ≠ .patchSet := by
    simp [PatchSet.Nested]
  have resolved_iff :
      (∀ patch ∈ spec.resources.flatMap (·.patches), ¬ spec.Unresolved patch) ↔
      ∀ template ∈ spec.resources, ∀ patch ∈ template.patches, patch.type = .patchSet →
        ∃ name, patch.patchSetName = some name ∧ ∃ set ∈ spec.patchSets, set.name = name := by
    simp only [List.forall_mem_flatMap, not_unresolved_iff]
  refine ⟨?_, fun lists => templatePatches_spliced, fun e => templatePatches_eq_error_iff⟩
  rw [← flat_iff, ← resolved_iff]
  exact exists_templatePatches_iff

/-- The patches of the last of two sets with one name stand where the reference has stood. -/
example :
    ({ blank with
      patchSets := [⟨"common", [.fromComposite "a"]⟩,
        ⟨"common", [.fromComposite "b", .fromComposite "c"]⟩]
      resources := [{ ComposedTemplate.ofBase .null with
        patches := [.toComposite "x", .ofSet "common", .toComposite "y"] }] }
      : CompositionSpec).templatePatches =
    .ok [[.toComposite "x", .fromComposite "b", .fromComposite "c", .toComposite "y"]] := by
  rfl

end CompositionSpec
end ResourceLoom
