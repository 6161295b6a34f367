import ResourceLoom.Proofs.RenderWrites

/-! # What the base stage keeps

The base stage replaces a composed document by the base of its template and takes over the name and
the namespace that it had. It is refused for a base that is no object and for a change of the type.
If it succeeds, the name and the namespace are those of before or else of the base, all that lies
beside them is as in the base, and a second run finds the same type, name and namespace in place.
-/
namespace ResourceLoom.Render

open Document (SameAt SeededAt)

variable {base composed y : Document}

/-- What the base stage takes over from the composed document. -/
def identitySeeds (composed : Document) : List Seed :=
  [(namePath, composed.reach namePath), (namespacePath, composed.reach namespacePath)]

theorem seeded_eq_seedAll (base composed : Document) :
    seeded base composed = base.seedAll (identitySeeds composed) := rfl

theorem pairwise_identitySeeds (composed : Document) : (identitySeeds composed).Pairwise
    fun first second => first.1.PartsAtFields second.1 := by
  simp [identitySeeds, namePath, namespacePath, fieldPath, Path.partsAtFields_cons]

theorem reach_seeded_name (base composed : Document) : (seeded base composed).reach namePath =
    (composed.reach namePath).or (base.reach namePath) :=
  Document.reach_seedAll_of_mem (pairwise_identitySeeds composed) List.mem_cons_self base

theorem reach_seeded_namespace (base composed : Document) :
    (seeded base composed).reach namespacePath =
      (composed.reach namespacePath).or (base.reach namespacePath) :=
  Document.reach_seedAll_of_mem (pairwise_identitySeeds composed)
    (List.mem_cons_of_mem _ List.mem_cons_self) base

/-- The name and the namespace are seen nowhere beside them. -/
theorem reach_seeded_of_parts {path : Path} (name : namePath.PartsAtFields path)
    (space : namespacePath.PartsAtFields path) (base composed : Document) :
    (seeded base composed).reach path = base.reach path := by
  have apart : ∀ seed ∈ identitySeeds composed, seed.1.PartsAtFields path :=
    List.forall_mem_cons.2 ⟨name, List.forall_mem_singleton.2 space⟩
  rw [seeded_eq_seedAll, Document.reach_seedAll_of_parts apart]

theorem objectType_seeded (base composed : Document) :
    ObjectType.of (seeded base composed) = ObjectType.of base := by
  have beside {name : String} (h : "metadata" ≠ name) :
      (seeded base composed).textField name = base.textField name := by
    have kept : (seeded base composed).reach [.field name] = base.reach [.field name] :=
      reach_seeded_of_parts (Path.partsAtFields_cons.2 (.inl h))
        (Path.partsAtFields_cons.2 (.inl h)) base composed
    simp only [Document.reach_singleton] at kept
    simp only [Document.textField, Document.field?_eq_child?, kept]
  simp only [ObjectType.of, beside (by decide : "metadata" ≠ "apiVersion"),
    beside (by decide : "metadata" ≠ "kind")]

/-- A second time, what is taken over is what is there. -/
theorem seeded_seeded (base composed : Document) :
    seeded base (seeded base composed) = seeded base composed := by
  have again : identitySeeds (seeded base composed) =
      (identitySeeds composed).map fun seed => (seed.1, seed.2.or (base.reach seed.1)) := by
    rw [identitySeeds, reach_seeded_name, reach_seeded_namespace]
    rfl
  rw [seeded_eq_seedAll base (seeded base composed), again,
    Document.seedAll_or_reach (pairwise_identitySeeds composed), seeded_eq_seedAll]

/-- The composed document has given way to the base, but for its name and its namespace. -/
structure KeepsIdentity (base composed y : Document) : Prop where
  name : SeededAt namePath (composed.at? ["metadata", "name"]) base y
  space : SeededAt namespacePath (composed.at? ["metadata", "namespace"]) base y
  beside : ∀ path, namePath.PartsAtFields path → namespacePath.PartsAtFields path →
    SameAt path base y

theorem keepsIdentity_seeded (base composed : Document) :
    KeepsIdentity base composed (seeded base composed) := by
  constructor
  · rw [Document.at?_eq_reach]
    exact Document.seededAt_iff_reach.2 (reach_seeded_name base composed)
  · rw [Document.at?_eq_reach]
    exact Document.seededAt_iff_reach.2 (reach_seeded_namespace base composed)
  · intro path name space
    exact Document.sameAt_iff_reach.2 (reach_seeded_of_parts name space base composed).symm

/-- The base stage succeeds if and only if the base is an object and the composed document is of its
type or of none yet; else it leaves the document as it is. If it succeeds, it has kept the identity
of the document and nothing else, and running it again changes nothing. -/
theorem renderFromBase_outcome (base composed : Document) :
    ((renderFromBase base composed).result = .ok () ↔
        base.isObject = true ∧ TypeKept base composed) ∧
      (∀ e, (renderFromBase base composed).result = .error e →
        (renderFromBase base composed).state = composed) ∧
      ∀ y, renderFromBase base composed = .done y →
        KeepsIdentity base composed y ∧ renderFromBase base y = .done y := by
  rw [renderFromBase]
  refine ⟨⟨fun ok => ?_, ?_⟩, fun e failed => ?_, fun y done => ?_⟩
  · obtain ⟨y, made⟩ := Outcome.exists_of_ofExcept_ok ok
    obtain ⟨object, kept, -⟩ := fromBase_eq_ok_iff.1 made
    exact ⟨object, kept⟩
  · rintro ⟨object, kept⟩
    rw [fromBase_eq_ok_iff.2 ⟨object, kept, rfl⟩, Outcome.ofExcept_ok, Outcome.result_done]
  · rw [Outcome.error_of_ofExcept_error failed, Outcome.ofExcept_error, Outcome.state_fail]
  · obtain ⟨object, -, rfl⟩ := fromBase_eq_ok_iff.1 (Outcome.ofExcept_eq_done_iff.1 done)
    have sameType : TypeKept base (seeded base composed) := .inr (objectType_seeded base composed)
    refine ⟨keepsIdentity_seeded base composed, Outcome.ofExcept_eq_done_iff.2 ?_⟩
    exact fromBase_eq_ok_iff.2 ⟨object, sameType, (seeded_seeded base composed).symm⟩

end ResourceLoom.Render
