import ResourceLoom.Proofs.PatchSetSplicing
import ResourceLoom.Proofs.RenderFailures

/-! # Rendering after inlining

An inlined specification is one in which neither a set nor a template refers to a set. Inlining
leads to such a specification and leaves it as it is, so a second run changes nothing. The patch
engine refuses references and nothing else for its type, hence it refuses no patch of a template
that has been inlined.
-/
namespace ResourceLoom

def ComposedTemplate.withoutPatches (template : ComposedTemplate) : ComposedTemplate :=
  { template with patches := [] }

namespace CompositionSpec

/-- No set and no template refers to a set. -/
structure Inlined (spec : CompositionSpec) : Prop where
  sets : ∀ set ∈ spec.patchSets, ¬ set.Nested
  templates : ∀ template ∈ spec.resources, ∀ patch ∈ template.patches, patch.type ≠ .patchSet

/-- What inlining keeps of a specification. -/
def withoutPatches (spec : CompositionSpec) : CompositionSpec :=
  { spec with resources := spec.resources.map ComposedTemplate.withoutPatches }

variable {spec : CompositionSpec} {lists : List (List Patch)}

theorem expandAll_of_plain {patches : List Patch}
    (plain : ∀ patch ∈ patches, patch.type ≠ .patchSet) :
    spec.expandAll patches = .ok patches := by
  induction patches with
  | nil => rfl
  | cons patch rest ih =>
    obtain ⟨first, others⟩ := List.forall_mem_cons.1 plain
    rw [expandAll_cons, expand_of_plain first, ih others]
    rfl

theorem expandTemplates_of_plain {templates : List ComposedTemplate}
    (plain : ∀ template ∈ templates, ∀ patch ∈ template.patches, patch.type ≠ .patchSet) :
    spec.expandTemplates templates = .ok (templates.map (·.patches)) := by
  induction templates with
  | nil => rfl
  | cons template rest ih =>
    obtain ⟨first, others⟩ := List.forall_mem_cons.1 plain
    rw [expandTemplates_cons, expandAll_of_plain first, ih others]
    rfl

theorem withPatches_own (spec : CompositionSpec) :
    spec.withPatches (spec.resources.map (·.patches)) = spec := by
  have same : spec.resources.zipWith (fun template patches => { template with patches })
      (spec.resources.map (·.patches)) = spec.resources := by
    rw [List.zipWith_map_right, List.zipWith_self]
    exact List.map_id _
  rw [withPatches, same]

theorem inlinePatchSets_of_inlined (h : spec.Inlined) : spec.inlinePatchSets = .done spec := by
  have done : spec.templatePatches = .ok (spec.resources.map (·.patches)) := by
    rw [templatePatches_of_flat h.sets]
    exact expandTemplates_of_plain h.templates
  rw [inlinePatchSets, done, Except.map, withPatches_own, Outcome.ofExcept_ok]

theorem inlinePatchSets_cases (spec : CompositionSpec) :
    (∃ e, spec.inlinePatchSets = .fail e spec) ∨
      ∃ lists, spec.templatePatches = .ok lists ∧
        spec.inlinePatchSets = .done (spec.withPatches lists) := by
  unfold inlinePatchSets
  cases spec.templatePatches with
  | error e => exact .inl ⟨e, rfl⟩
  | ok lists => exact .inr ⟨lists, rfl, rfl⟩

theorem LastNamed.mem {name : String} {set : PatchSet} (h : spec.LastNamed name set) :
    set ∈ spec.patchSets := by
  obtain ⟨before, after, split, -⟩ := h
  simp [split]

/-- No reference is spliced in, since the sets hold none. -/
theorem plain_of_splices (flat : ∀ set ∈ spec.patchSets, ¬ set.Nested) {patch : Patch}
    {part : List Patch} (h : spec.Splices patch part) :
    ∀ spliced ∈ part, spliced.type ≠ .patchSet := by
  intro spliced mem
  cases h with
  | itself plain =>
    rw [List.mem_singleton.1 mem]
    exact plain
  | setPatches reference named last =>
    intro nested
    exact flat _ last.mem ⟨spliced, mem, nested⟩

theorem plain_of_all_splices (flat : ∀ set ∈ spec.patchSets, ¬ set.Nested) {patches : List Patch}
    {parts : List (List Patch)} (h : List.Forall₂ spec.Splices patches parts) :
    ∀ spliced ∈ parts.flatten, spliced.type ≠ .patchSet := by
  induction h with
  | nil => exact nofun
  | cons first _ ih =>
    rw [List.flatten_cons]
    exact List.forall_mem_append.2 ⟨plain_of_splices flat first, ih⟩

theorem mem_resources_withPatches {template : ComposedTemplate}
    (mem : template ∈ (spec.withPatches lists).resources) :
    ∃ original patches, (original, patches) ∈ spec.resources.zip lists ∧
      template = { original with patches } := by
  rw [withPatches, ← List.map_uncurry_zip_eq_zipWith] at mem
  obtain ⟨⟨original, patches⟩, paired, rfl⟩ := List.mem_map.1 mem
  exact ⟨original, patches, paired, rfl⟩

theorem inlined_withPatches (done : spec.templatePatches = .ok lists) :
    (spec.withPatches lists).Inlined := by
  have flat : ∀ set ∈ spec.patchSets, ¬ set.Nested := flat_of_templatePatches done
  refine ⟨flat, ?_⟩
  intro template mem
  obtain ⟨original, patches, paired, rfl⟩ := mem_resources_withPatches mem
  obtain ⟨-, spliced⟩ := List.forall₂_iff_zip.1 (templatePatches_spliced done)
  obtain ⟨parts, splices, rfl⟩ := spliced paired
  exact plain_of_all_splices flat splices

theorem withoutPatches_withPatches (same : spec.resources.length = lists.length) :
    (spec.withPatches lists).withoutPatches = spec.withoutPatches := by
  have firsts : (spec.resources.zip lists).map Prod.fst = spec.resources :=
    List.map_fst_zip (Nat.le_of_eq same)
  have kept : (spec.withPatches lists).resources.map ComposedTemplate.withoutPatches =
      spec.resources.map ComposedTemplate.withoutPatches := calc
    _ = (spec.resources.zip lists).map fun pair => pair.1.withoutPatches := by
      rw [withPatches, ← List.map_uncurry_zip_eq_zipWith, List.map_map]
      rfl
    _ = ((spec.resources.zip lists).map Prod.fst).map ComposedTemplate.withoutPatches := by
      rw [List.map_map]
      rfl
    _ = spec.resources.map ComposedTemplate.withoutPatches := by rw [firsts]
  rw [withoutPatches, withoutPatches, kept]
  rfl

theorem inlined_of_inlinePatchSets (ok : spec.inlinePatchSets.result = .ok ()) :
    spec.inlinePatchSets.state.Inlined := by
  rcases inlinePatchSets_cases spec with ⟨e, failed⟩ | ⟨lists, spliced, done⟩
  · rw [failed] at ok
    cases ok
  · rw [done]
    exact inlined_withPatches spliced

theorem withoutPatches_inlinePatchSets (spec : CompositionSpec) :
    spec.inlinePatchSets.state.withoutPatches = spec.withoutPatches := by
  rcases inlinePatchSets_cases spec with ⟨e, failed⟩ | ⟨lists, spliced, done⟩
  · rw [failed, Outcome.state_fail]
  · rw [done, Outcome.state_done]
    exact withoutPatches_withPatches (templatePatches_spliced spliced).length_eq

end CompositionSpec

theorem Composition.spec_of_inlined {composition inlined : Composition}
    (done : composition.inlined = .ok inlined) :
    composition.spec.inlinePatchSets.result = .ok () ∧
      inlined.spec = composition.spec.inlinePatchSets.state := by
  rw [Composition.inlined] at done
  rcases Outcome.eq_done_or_eq_fail composition.spec.inlinePatchSets with h | ⟨e, h⟩
  · rw [h] at done ⊢
    cases done
    exact ⟨rfl, rfl⟩
  · rw [h] at done
    cases done

/-- A failing inlining changes nothing. One that succeeds changes the patches of the templates only,
leaves no reference among them and nothing to do for a second one, and no rendering of a template
of the inlined composition is refused for the type of a patch. -/
theorem CompositionSpec.inlinePatchSets_sufficient :
    (∀ (spec : CompositionSpec) (e : Error), spec.inlinePatchSets.result = .error e →
      spec.inlinePatchSets.state = spec) ∧
    (∀ spec : CompositionSpec, spec.inlinePatchSets.result = .ok () →
      spec.inlinePatchSets.state.withoutPatches = spec.withoutPatches ∧
      (∀ template ∈ spec.inlinePatchSets.state.resources, ∀ patch ∈ template.patches,
        patch.type ≠ .patchSet) ∧
      spec.inlinePatchSets.state.inlinePatchSets = .done spec.inlinePatchSets.state) ∧
    ∀ composition inlined : Composition, composition.inlined = .ok inlined →
      ∀ template ∈ inlined.spec.resources, ∀ (config : RenderConfig) (documents : Documents)
        (e : Error), (template.render config documents).result = .error e →
          ∀ type, e.root ≠ .ofCause (.invalidPatchType type) := by
  refine ⟨?_, ?_, ?_⟩
  · intro spec e failed
    rcases inlinePatchSets_cases spec with ⟨fault, stopped⟩ | ⟨lists, -, done⟩
    · rw [stopped, Outcome.state_fail]
    · rw [done] at failed
      cases failed
  · intro spec ok
    have inlined := inlined_of_inlinePatchSets ok
    exact ⟨withoutPatches_inlinePatchSets spec, inlined.templates,
      inlinePatchSets_of_inlined inlined⟩
  · intro composition inlined done template mem config documents e failed type root
    obtain ⟨ok, same⟩ := Composition.spec_of_inlined done
    rw [same] at mem
    have plain : ∀ patch ∈ template.patches, patch.selected config.patchTypes = true →
        patch.type ≠ .patchSet := fun patch inside _ =>
      (inlined_of_inlinePatchSets ok).templates template mem patch inside
    have taken : ¬ e.cause.OfType := ComposedTemplate.failsFor_render plain documents e failed
    have refused : e.cause = .invalidPatchType type := congrArg Error.cause root
    rw [refused] at taken
    exact taken rfl

/-- Without inlining the reference is met by the rendering. -/
example :
    ({ ComposedTemplate.ofBase (.object []) with
      patches := [.ofSet "common"] }.render .empty ⟨.object [], .object []⟩).result =
    .error ⟨[.patch 0], .invalidPatchType "PatchSet"⟩ := by
  rfl

end ResourceLoom
