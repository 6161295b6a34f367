import ResourceLoom.Proofs.PatchFailures
import ResourceLoom.Proofs.PatchWrites

/-! # Independent patches in any order

Paths are independent when they part at two fields or at two positions. Writes at independent paths
may change places, although either may have to create, replace or pad the containers they share.
Patches that read the composite write what they write whatever the others have done, so a run of
independent ones ends in the same documents in every order.
-/
namespace ResourceLoom

/-- The first difference of the paths is between two fields or between two positions. -/
def Path.Independent (p q : Path) : Prop :=
  ∃ (shared : Path) (s t : Segment) (below beside : Path),
    p = shared ++ s :: below ∧ q = shared ++ t :: beside ∧ s ≠ t ∧ s.Alike t

theorem Path.Independent.symm {p q : Path} (h : p.Independent q) : q.Independent p := by
  obtain ⟨shared, s, t, below, beside, hp, hq, hne, alike⟩ := h
  exact ⟨shared, t, s, beside, below, hq, hp, hne.symm, alike.symm⟩

namespace Document

variable {x y : Document} {p q : Path} {s t : Segment}

theorem put_comm_of_independent (h : p.Independent q) (x v u : Document) :
    (x.put q u).put p v = (x.put p v).put q u := by
  obtain ⟨shared, s, t, below, beside, rfl, rfl, hne, alike⟩ := h
  exact put_comm alike hne x shared below beside v u

/-- Containers of one kind accept the same segments. -/
theorem accepts_congr (hx : x.Accepts s) (hy : y.Accepts s) : x.Accepts t ↔ y.Accepts t := by
  by_cases alike : s.Alike t
  · exact iff_of_true ((accepts_iff_of_alike alike).1 hx) ((accepts_iff_of_alike alike).1 hy)
  · exact iff_of_false (fun h => not_accepts_of_not_alike alike h hx)
      fun h => not_accepts_of_not_alike alike h hy

/-- A write keeps the kind of the root, and with it the paths that can be written. -/
theorem writable_put_iff (h : x.Writable q) (v : Document) :
    (x.put q v).Writable p ↔ x.Writable p := by
  have root : (x.put q v).AcceptsPath p ↔ x.AcceptsPath p := by
    cases p with
    | nil => rfl
    | cons t below =>
      cases q with
      | nil => exact absurd rfl h.nonempty
      | cons s beside => exact accepts_congr (accepts_putChild x s _) h.root
  constructor
  · exact fun w => ⟨w.nonempty, w.bounded, root.1 w.root⟩
  · exact fun w => ⟨w.nonempty, w.bounded, root.2 w.root⟩

/-- Writes keep the paths that can be written. -/
theorem writable_putAll_iff {writes : List Write} (h : ∀ w ∈ writes, x.Writable w.1) :
    (x.putAll writes).Writable p ↔ x.Writable p := by
  induction writes generalizing x with
  | nil => rfl
  | cons w rest ih =>
    obtain ⟨first, others⟩ := List.forall_mem_cons.1 h
    have kept : ∀ u ∈ rest, (x.put w.1 w.2).Writable u.1 := fun u mem =>
      (writable_put_iff first w.2).2 (others u mem)
    rw [putAll_cons, ih kept, writable_put_iff first]

theorem putAll_put_comm {writes : List Write} (h : ∀ w ∈ writes, p.Independent w.1)
    (x v : Document) : (x.put p v).putAll writes = (x.putAll writes).put p v := by
  induction writes generalizing x with
  | nil => rfl
  | cons w rest ih =>
    obtain ⟨first, others⟩ := List.forall_mem_cons.1 h
    rw [putAll_cons, put_comm_of_independent first.symm, ih others, putAll_cons]

/-- Sequences of writes at independent paths may change places. -/
theorem putAll_comm {first second : List Write}
    (h : ∀ w ∈ first, ∀ u ∈ second, w.1.Independent u.1) (x : Document) :
    (x.putAll first).putAll second = (x.putAll second).putAll first := by
  induction first generalizing x with
  | nil => rfl
  | cons w rest ih =>
    obtain ⟨head, tail⟩ := List.forall_mem_cons.1 h
    rw [putAll_cons, ih tail, putAll_put_comm head, putAll_cons]

end Document

namespace Patch

/-- The path that a patch writes to, where its text can be read. -/
def targetPath? (patch : Patch) : Option Path :=
  patch.target?.bind fun text => (Path.parse text).toOption

/-- The patches write to independent paths, if they write at all. -/
def Independent (patch other : Patch) : Prop :=
  ∀ p ∈ patch.targetPath?, ∀ q ∈ other.targetPath?, p.Independent q

theorem Independent.symm {patch other : Patch} (h : patch.Independent other) :
    other.Independent patch :=
  fun q hq p hp => (h p hp q hq).symm

variable {patch other : Patch} {only : List PatchType} {composite x : Document}
  {documents next last : Documents}

/-- A patch that reads the composite and succeeds makes the same writes on all composed documents
that admit them, if it makes any. -/
theorem writes_of_apply (reads : patch.ReadsComposite)
    (ok : (patch.apply only ⟨composite, x⟩).result = .ok ()) :
    ∃ writes : List Write, (∀ w ∈ writes, w.1 ∈ patch.targetPath? ∧ x.Writable w.1) ∧
      ∀ y : Document, (∀ w ∈ writes, y.Writable w.1) →
        patch.apply only ⟨composite, y⟩ = .done ⟨composite, y.putAll writes⟩ := by
  cases chosen : patch.selected only with
  | false => exact ⟨[], nofun, fun y _ => apply_of_not_selected chosen _⟩
  | true =>
    simp only [apply_of_readsComposite chosen reads] at ok ⊢
    cases planned : patch.plan composite with
    | error e =>
      rw [planned] at ok
      cases ok
    | ok write =>
      obtain ⟨sources, target, -, given, effect⟩ := plan_eq_ok planned
      rcases effect with ⟨-, rfl⟩ | ⟨inputs, v, -, -, rfl⟩
      · exact ⟨[], nofun, fun y _ => rfl⟩
      · rw [planned] at ok
        obtain ⟨path, parsed, writable⟩ :=
          Document.exists_of_write_ok (Outcome.ok_of_mapError_ok ok)
        have aimed : patch.targetPath? = some path := by
          simp [targetPath?, given, parsed, Except.toOption]
        refine ⟨[(path, v)], by simp [aimed, writable], fun y admits => ?_⟩
        have writableThere : y.Writable path := admits (path, v) (List.mem_singleton_self _)
        rw [carryOut, Document.write_of_parse parsed, Document.set_of_writable writableThere]
        rfl

/-- Of two independent patches that succeed one after the other, the second may come first. -/
theorem apply_comm (reads : patch.ReadsComposite) (readsOther : other.ReadsComposite)
    (independent : patch.Independent other) (first : patch.apply only documents = .done next)
    (second : other.apply only next = .done last) :
    ∃ between, other.apply only documents = .done between ∧
      patch.apply only between = .done last := by
  obtain ⟨composite, x⟩ := documents
  obtain ⟨writes, made, apply_eq⟩ := writes_of_apply reads (congrArg Outcome.result first)
  have admits : ∀ w ∈ writes, x.Writable w.1 := fun w mem => (made w mem).2
  obtain rfl : ⟨composite, x.putAll writes⟩ = next :=
    congrArg Outcome.state ((apply_eq x admits).symm.trans first)
  obtain ⟨others, madeOthers, applyOther_eq⟩ :=
    writes_of_apply readsOther (congrArg Outcome.result second)
  have admitsAfter : ∀ w ∈ others, (x.putAll writes).Writable w.1 := fun w mem =>
    (madeOthers w mem).2
  obtain rfl : ⟨composite, (x.putAll writes).putAll others⟩ = last :=
    congrArg Outcome.state ((applyOther_eq _ admitsAfter).symm.trans second)
  -- The root keeps its kind, so both sequences of writes are admitted before and after the other.
  have admitsOthers : ∀ w ∈ others, x.Writable w.1 := fun w mem =>
    (Document.writable_putAll_iff admits).1 (admitsAfter w mem)
  have admitsStill : ∀ w ∈ writes, (x.putAll others).Writable w.1 := fun w mem =>
    (Document.writable_putAll_iff admitsOthers).2 (admits w mem)
  have apart : ∀ w ∈ writes, ∀ u ∈ others, w.1.Independent u.1 := fun w hw u hu =>
    independent w.1 (made w hw).1 u.1 (madeOthers u hu).1
  refine ⟨⟨composite, x.putAll others⟩, applyOther_eq x admitsOthers, ?_⟩
  rw [apply_eq _ admitsStill, Document.putAll_comm apart]

theorem applyFrom_cons_eq_done_iff {index : Nat} {rest : List Patch} :
    applyFrom only index (patch :: rest) documents = .done last ↔
      ∃ next, patch.apply only documents = .done next ∧
        applyFrom only (index + 1) rest next = .done last := by
  constructor
  · intro done
    rcases apply_cases patch only documents with ⟨next, applied⟩ | ⟨e, failed⟩
    · rw [applyFrom_of_apply_done applied] at done
      exact ⟨next, applied, done⟩
    · rw [applyFrom_of_apply_fail failed] at done
      cases done
  · rintro ⟨next, applied, further⟩
    rw [applyFrom_of_apply_done applied, further]

/-- Patches that read the composite leave it as it is. -/
theorem composite_of_applyFrom {patches : List Patch} {index : Nat}
    (reads : ∀ patch ∈ patches, patch.ReadsComposite)
    (done : applyFrom only index patches documents = .done last) :
    last.composite = documents.composite := by
  have kept : (applyFrom only index patches documents).state.composite = documents.composite :=
    composite_applyFrom fun patch mem _ => (reads patch mem).writesComposite
  rwa [done, Outcome.state_done] at kept

/-- A run of independent patches may be put into any other order. -/
theorem applyFrom_of_perm {patches permuted : List Patch} {index : Nat}
    (perm : patches.Perm permuted) (reads : ∀ patch ∈ patches, patch.ReadsComposite)
    (independent : patches.Pairwise Independent)
    (done : applyFrom only index patches documents = .done last) :
    applyFrom only index permuted documents = .done last := by
  induction perm generalizing documents index with
  | nil => exact done
  | cons patch _ ih =>
    obtain ⟨next, applied, further⟩ := applyFrom_cons_eq_done_iff.1 done
    have rest := ih (List.forall_mem_cons.1 reads).2 independent.of_cons further
    exact applyFrom_cons_eq_done_iff.2 ⟨next, applied, rest⟩
  | swap second first rest =>
    obtain ⟨readsFirst, readsOthers⟩ := List.forall_mem_cons.1 reads
    obtain ⟨readsSecond, -⟩ := List.forall_mem_cons.1 readsOthers
    have apart := (List.pairwise_cons.1 independent).1 second List.mem_cons_self
    obtain ⟨middle, applied, done⟩ := applyFrom_cons_eq_done_iff.1 done
    obtain ⟨next, appliedSecond, further⟩ := applyFrom_cons_eq_done_iff.1 done
    obtain ⟨between, swapped, still⟩ :=
      apply_comm readsFirst readsSecond apart applied appliedSecond
    refine applyFrom_cons_eq_done_iff.2 ⟨between, swapped, ?_⟩
    exact applyFrom_cons_eq_done_iff.2 ⟨next, still, further⟩
  | @trans _ between _ first _ ihFirst ihSecond =>
    have readsBetween : ∀ patch ∈ between, patch.ReadsComposite := fun patch mem =>
      reads patch (first.mem_iff.2 mem)
    exact ihSecond readsBetween (first.pairwise independent Independent.symm)
      (ihFirst reads independent done)

/-- Independent patches that read the composite and succeed in one order succeed in every order,
with one and the same composed document. -/
theorem applyFrom_perm {patches permuted : List Patch} {only : List PatchType}
    {documents : Documents} (reads : ∀ patch ∈ patches, patch.ReadsComposite)
    (independent : patches.Pairwise Independent)
    (ok : (applyFrom only 0 patches documents).result = .ok ())
    (perm : patches.Perm permuted) :
    ∃ composed, applyFrom only 0 patches documents = .done ⟨documents.composite, composed⟩ ∧
      applyFrom only 0 permuted documents = .done ⟨documents.composite, composed⟩ := by
  obtain ⟨⟨composite, composed⟩, done⟩ :
      ∃ last, applyFrom only 0 patches documents = .done last := ⟨_, Outcome.eq_done_of_ok ok⟩
  obtain rfl : composite = documents.composite := composite_of_applyFrom reads done
  exact ⟨composed, done, applyFrom_of_perm perm reads independent done⟩

/-- Two patches that write into one array. -/
def portPatches : List Patch :=
  [{ fromComposite "spec.http" with toFieldPath := some "ports[1]" },
    { fromComposite "spec.https" with toFieldPath := some "ports[0]" }]

/-- Where the array has to stand, the composed document has a text. -/
def portDocuments : Documents where
  composite := .object [("spec", .object [("http", .int 80), ("https", .int 443)])]
  composed := .object [("ports", .string "none")]

theorem applyFrom_perm_ports :
    (∀ patch ∈ portPatches, patch.ReadsComposite) ∧ portPatches.Pairwise Independent ∧
    (applyFrom [] 0 portPatches portDocuments).result = .ok () ∧
    portPatches.Perm portPatches.reverse ∧
    ∃ composed,
      applyFrom [] 0 portPatches portDocuments = .done ⟨portDocuments.composite, composed⟩ ∧
      applyFrom [] 0 portPatches.reverse portDocuments =
        .done ⟨portDocuments.composite, composed⟩ := by
  have reads : ∀ patch ∈ portPatches, patch.ReadsComposite := by
    intro patch mem
    simp only [portPatches, List.mem_cons, List.not_mem_nil, or_false] at mem
    rcases mem with rfl | rfl <;> exact .inl rfl
  have independent : portPatches.Pairwise Independent := by
    refine List.pairwise_pair.2 fun p hp q hq => ?_
    obtain rfl : [.field "ports", .index 1] = p := Option.some.inj hp
    obtain rfl : [.field "ports", .index 0] = q := Option.some.inj hq
    exact ⟨[.field "ports"], .index 1, .index 0, [], [], rfl, rfl, by decide, trivial⟩
  have ok : (applyFrom [] 0 portPatches portDocuments).result = .ok () := rfl
  have perm := (List.reverse_perm portPatches).symm
  exact ⟨reads, independent, ok, perm, applyFrom_perm reads independent ok perm⟩

end Patch
end ResourceLoom
