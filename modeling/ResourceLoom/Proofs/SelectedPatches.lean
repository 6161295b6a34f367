import ResourceLoom.Proofs.RenderFailures

/-! # Renderings of some patch types

A list of types passes over the patches of other types before anything else is looked at, so a
rendering with it does what a rendering of all types does with these patches taken out of the
template. Only the position of a failing patch is counted in the list as it was. Patches of some
types never write to one of the documents, and that document passes through their run unchanged.
-/
namespace ResourceLoom

namespace Patch

/-- The patches of the given types, in their order. -/
def ofTypes (types : List PatchType) (patches : List Patch) : List Patch :=
  patches.filter (·.type ∈ types)

/-- How a run of the patches from one position compares with a run from another one of those of the
given types. They are done with the same documents, or they fail at the same patch for the same
reason and leave the same documents, where each counts the position of the patch in its own list. -/
inductive SameUpToPosition (types : List PatchType) (patches : List Patch) (index start : Nat) :
    Outcome Error Documents → Outcome Error Documents → Prop where
  | done (reached : Documents) :
      SameUpToPosition types patches index start (.done reached) (.done reached)
  | failed {before after : List Patch} {patch : Patch} (split : patches = before ++ patch :: after)
      (mem : patch.type ∈ types) (inner : Error) (reached : Documents) :
      SameUpToPosition types patches index start
        (.fail (inner.within (.patch (index + before.length))) reached)
        (.fail (inner.within (.patch (start + (ofTypes types before).length))) reached)

variable {patch : Patch} {patches rest : List Patch} {types only : List PatchType}
  {documents : Documents} {index start : Nat}

theorem ofTypes_cons_of_mem (mem : patch.type ∈ types) (rest : List Patch) :
    ofTypes types (patch :: rest) = patch :: ofTypes types rest :=
  List.filter_cons_of_pos (decide_eq_true mem)

theorem ofTypes_cons_of_not_mem (excluded : patch.type ∉ types) (rest : List Patch) :
    ofTypes types (patch :: rest) = ofTypes types rest :=
  List.filter_cons_of_neg (fun mem => excluded (of_decide_eq_true mem))

theorem apply_of_mem (mem : patch.type ∈ types) (documents : Documents) :
    patch.apply types documents = patch.apply [] documents := by
  rw [apply_of_selected (selected_iff.2 (.inr mem)), apply_of_selected (selected_iff.2 (.inl rfl))]

theorem apply_of_not_mem (limited : types ≠ []) (excluded : patch.type ∉ types)
    (documents : Documents) : patch.apply types documents = .done documents := by
  refine apply_of_not_selected (Bool.eq_false_iff.2 fun chosen => ?_) documents
  exact (selected_iff.1 chosen).elim limited excluded

namespace SameUpToPosition

variable {run other : Outcome Error Documents}

/-- A patch of the types stands before both lists. -/
theorem cons (mem : patch.type ∈ types)
    (h : SameUpToPosition types rest (index + 1) (start + 1) run other) :
    SameUpToPosition types (patch :: rest) index start run other := by
  cases h with
  | done reached => exact .done reached
  | @failed before after culprit split chosen inner reached =>
    have longer : (ofTypes types (patch :: before)).length = (ofTypes types before).length + 1 := by
      rw [ofTypes_cons_of_mem mem, List.length_cons]
    have whole : patch :: rest = (patch :: before) ++ culprit :: after := by rw [split]; rfl
    have next : index + 1 + before.length = index + (patch :: before).length := by
      rw [List.length_cons]
      omega
    have nextLeft : start + 1 + (ofTypes types before).length =
        start + (ofTypes types (patch :: before)).length := by
      omega
    rw [next, nextLeft]
    exact .failed whole chosen inner reached

/-- A patch of another type stands before the first list only. -/
theorem skip (excluded : patch.type ∉ types)
    (h : SameUpToPosition types rest (index + 1) start run other) :
    SameUpToPosition types (patch :: rest) index start run other := by
  cases h with
  | done reached => exact .done reached
  | @failed before after culprit split chosen inner reached =>
    have whole : patch :: rest = (patch :: before) ++ culprit :: after := by rw [split]; rfl
    have next : index + 1 + before.length = index + (patch :: before).length := by
      rw [List.length_cons]
      omega
    rw [next, ← ofTypes_cons_of_not_mem excluded before]
    exact .failed whole chosen inner reached

end SameUpToPosition

/-- A run with a list of types is the run of the patches of these types. -/
theorem applyFrom_ofTypes (limited : types ≠ []) (patches : List Patch) (index start : Nat)
    (documents : Documents) :
    SameUpToPosition types patches index start (applyFrom types index patches documents)
      (applyFrom [] start (ofTypes types patches) documents) := by
  -- Both runs go on from the documents that the patch leaves; the second one has not counted it
  -- when it is of another type.
  induction patches generalizing index start documents with
  | nil => exact .done documents
  | cons patch rest ih =>
    by_cases mem : patch.type ∈ types
    · rw [ofTypes_cons_of_mem mem]
      have same := apply_of_mem mem documents
      rcases apply_cases patch [] documents with ⟨next, applied⟩ | ⟨inner, stopped⟩
      · rw [applyFrom_of_apply_done (same.trans applied), applyFrom_of_apply_done applied]
        exact (ih (index + 1) (start + 1) next).cons mem
      · have split : patch :: rest = [] ++ patch :: rest := rfl
        rw [applyFrom_of_apply_fail (same.trans stopped), applyFrom_of_apply_fail stopped]
        exact .failed split mem inner documents
    · rw [ofTypes_cons_of_not_mem mem,
        applyFrom_of_apply_done (apply_of_not_mem limited mem documents)]
      exact (ih (index + 1) start documents).skip mem

end Patch

namespace ComposedTemplate

open Patch (SameUpToPosition ofTypes)

/-- The template with its patches of the given types only. -/
def restrict (types : List PatchType) (template : ComposedTemplate) : ComposedTemplate :=
  { template with patches := ofTypes types template.patches }

variable {template : ComposedTemplate} {config : RenderConfig}

/-- What the rendering leaves comes out of the preparation and of the run of the patches. -/
theorem state_render_cases (template : ComposedTemplate) (config : RenderConfig)
    (documents : Documents) :
    (template.render config documents).state =
        ⟨documents.composite, (template.prepare documents.composite documents.composed).state⟩ ∨
      (template.render config documents).state =
        (Patch.applyFrom config.patchTypes 0 template.patches ⟨documents.composite,
          (template.prepare documents.composite documents.composed).state⟩).state := by
  obtain ⟨composite, composed⟩ := documents
  rcases template.prepare_cases composite composed with done | ⟨e, -, stopped⟩
  · exact .inr (congrArg Outcome.state (render_of_prepare_done config done))
  · exact .inl (congrArg Outcome.state (render_of_prepare_fail config stopped))

/-- Without a patch that writes to the composite a rendering leaves it as it is. -/
theorem composite_render (reads : ∀ patch ∈ template.patches,
    patch.selected config.patchTypes = true → patch.writesComposite = false)
    (documents : Documents) :
    (template.render config documents).state.composite = documents.composite := by
  rcases state_render_cases template config documents with state | state
  · rw [state]
  · rw [state, Patch.composite_applyFrom reads]

/-- Without a patch that writes to the composed document a rendering leaves what the preparation has
made of it. -/
theorem composed_render (writes : ∀ patch ∈ template.patches,
    patch.selected config.patchTypes = true → patch.writesComposite = true)
    (documents : Documents) :
    (template.render config documents).state.composed =
      (template.prepare documents.composite documents.composed).state := by
  rcases state_render_cases template config documents with state | state
  · rw [state]
  · rw [state, Patch.composed_applyFrom writes]

/-- A rendering with a list of types is the rendering of the patches of these types, up to the
position of a failing patch. -/
theorem render_ofTypes (limited : config.patchTypes ≠ []) (template : ComposedTemplate)
    (documents : Documents) :
    (∃ e reached, (∀ i inner, e ≠ Error.within (.patch i) inner) ∧
        template.render config documents = .fail e reached ∧
        (template.restrict config.patchTypes).render .empty documents = .fail e reached) ∨
      SameUpToPosition config.patchTypes template.patches 0 0 (template.render config documents)
        ((template.restrict config.patchTypes).render .empty documents) := by
  obtain ⟨types⟩ := config
  obtain ⟨composite, composed⟩ := documents
  -- The preparation does not look at the patches.
  rcases template.prepare_cases composite composed with done | ⟨e, early, stopped⟩
  · have doneRestricted : (template.restrict types).prepare composite composed = .done _ := done
    rw [render_of_prepare_done _ done, render_of_prepare_done _ doneRestricted]
    exact .inr (Patch.applyFrom_ofTypes limited template.patches 0 0 _)
  · have stoppedRestricted : (template.restrict types).prepare composite composed = .fail e _ :=
      stopped
    exact .inl ⟨e, _, fun i inner => early.ne_within (.patch i) inner,
      render_of_prepare_fail _ stopped, render_of_prepare_fail _ stoppedRestricted⟩

/-- A rendering with a list of types has the outcome of a rendering with all types of the template
that holds the patches of these types only, up to the position of a failing patch. Without the types
that write to a document, it leaves this document as it was before the patches. -/
theorem render_restrict (limited : config.patchTypes ≠ []) (template : ComposedTemplate)
    (documents : Documents) :
    ((∃ e reached, (∀ i inner, e ≠ Error.within (.patch i) inner) ∧
        template.render config documents = .fail e reached ∧
        (template.restrict config.patchTypes).render .empty documents = .fail e reached) ∨
      SameUpToPosition config.patchTypes template.patches 0 0 (template.render config documents)
        ((template.restrict config.patchTypes).render .empty documents)) ∧
    (.toComposite ∉ config.patchTypes →
      (template.render config documents).state.composite = documents.composite) ∧
    ((∀ type ∈ config.patchTypes, type = .toComposite) →
      (template.render config documents).state.composed =
        (template.prepare documents.composite documents.composed).state) := by
  have mem_of_selected {patch : Patch} (chosen : patch.selected config.patchTypes = true) :
      patch.type ∈ config.patchTypes := (Patch.selected_iff.1 chosen).resolve_left limited
  refine ⟨render_ofTypes limited template documents, fun excluded => ?_, fun onlyThese => ?_⟩
  · refine composite_render (fun patch _ chosen => ?_) documents
    exact decide_eq_false fun writes => excluded (writes ▸ mem_of_selected chosen)
  · refine composed_render (fun patch _ chosen => ?_) documents
    exact decide_eq_true (onlyThese patch.type (mem_of_selected chosen))

/-- A composite that holds the name of a bucket from before. -/
def reportedSite : Document :=
  .object [("metadata", .object [("uid", .string "7")]),
    ("status", .object [("bucket", .string "site-0")])]

def readingOnly : RenderConfig := ⟨[.fromComposite]⟩

/-- The patch that reports the name is passed over, and the next one fails for the name that the
composite still has: it is the second patch of the template, and the first one that is left. -/
theorem render_restrict_countedBucket :
    readingOnly.patchTypes ≠ [] ∧
      SameUpToPosition readingOnly.patchTypes countedBucket.patches 0 0
        (countedBucket.render readingOnly ⟨reportedSite, freshBucket⟩)
        ((countedBucket.restrict readingOnly.patchTypes).render .empty
          ⟨reportedSite, freshBucket⟩) ∧
      (countedBucket.render readingOnly ⟨reportedSite, freshBucket⟩).result =
        .error (multipliedText.within (.patch 1)) ∧
      ((countedBucket.restrict readingOnly.patchTypes).render .empty
        ⟨reportedSite, freshBucket⟩).result = .error (multipliedText.within (.patch 0)) ∧
      (countedBucket.render readingOnly ⟨reportedSite, freshBucket⟩).state.composite =
        reportedSite := by
  have limited : readingOnly.patchTypes ≠ [] := List.cons_ne_nil _ _
  have failed : (countedBucket.render readingOnly ⟨reportedSite, freshBucket⟩).result =
      .error (multipliedText.within (.patch 1)) := rfl
  obtain ⟨compared, composite, -⟩ :=
    render_restrict limited countedBucket ⟨reportedSite, freshBucket⟩
  refine ⟨limited, ?_, failed, rfl, composite (by decide)⟩
  rcases compared with ⟨e, reached, elsewhere, stopped, -⟩ | same
  · rw [stopped] at failed
    exact absurd (Except.error.inj failed) (elsewhere 1 multipliedText)
  · exact same

end ComposedTemplate
end ResourceLoom
