import ResourceLoom.Proofs.LookupOutcomes
import ResourceLoom.Proofs.WriteFrame

/-! # How deep a read comes

A path that leads to no value leads to one down to a certain depth, and there the read stops. What
the error says is settled by the last value and the segment behind it: a container of the kind that
the segment steps into lacks that child, and the error holds the path down to the child; any other
value is of the wrong kind, and the error holds the path down to the value. A lookup passes over the
first of these only, so null and scalars on the way are always errors.
-/
namespace ResourceLoom

/-- What is said of a container without a child at the segment. -/
def Segment.absence : Segment → String
  | field _ => "no such field"
  | index _ => "no such element"

theorem PathError.message_notFound (before : Path) (s : Segment) :
    (notFound (before ++ [s])).message =
      Path.display (before ++ [s]) ++ ": " ++ s.absence := by
  have reason : missing (before ++ [s]) = s.absence := by
    unfold missing
    rw [List.getLast?_concat]
    cases s with
    | field => rfl
    | index => rfl
  have shown : (notFound (before ++ [s])).message =
      Path.display (before ++ [s]) ++ ": " ++ missing (before ++ [s]) := rfl
  rw [shown, reason]

namespace Document

/-- The first segments of the path lead to a last value, and with the next one they lead to none. -/
structure StopsAt (root : Document) (path : Path) (depth : Nat) (last : Document)
    (next : Segment) : Prop where
  following : path[depth]? = some next
  reached : root.reach (path.take depth) = some last
  lost : root.reach (path.take (depth + 1)) = none

/-- Null and the scalars, which no segment steps into. -/
def IsLeaf : Document → Prop
  | object _ | array _ => False
  | _ => True

variable {root last w : Document} {path before : Path} {next : Segment} {depth : Nat}

theorem IsLeaf.not_accepts (h : w.IsLeaf) (s : Segment) : ¬ w.Accepts s := by
  cases w with
  | object | array => exact h.elim
  | _ => cases s <;> exact id

theorem reach_concat (reached : root.reach before = some last) (next : Segment) :
    root.reach (before ++ [next]) = last.child? next := by
  rw [reach_append, reached, Option.bind_some, reach_singleton]

/-- A path leads to a value only if every part of it from the root does. -/
theorem exists_reach_of_prefix (part : before <+: path) (reached : root.reach path = some w) :
    ∃ v, root.reach before = some v := by
  obtain ⟨rest, rfl⟩ := part
  rw [reach_append] at reached
  obtain ⟨v, first, -⟩ := Option.bind_eq_some_iff.1 reached
  exact ⟨v, first⟩

theorem take_succ_of_following (following : path[depth]? = some next) :
    path.take (depth + 1) = path.take depth ++ [next] := by
  rw [List.take_add_one, following, Option.toList_some]

theorem stopsAt_append (reached : root.reach before = some last) (absent : last.child? next = none)
    (after : Path) : root.StopsAt (before ++ next :: after) before.length last next := by
  have following : (before ++ next :: after)[before.length]? = some next := by simp
  refine ⟨following, by rwa [List.take_left], ?_⟩
  rw [take_succ_of_following following, List.take_left, reach_concat reached, absent]

theorem exists_stopsAt (h : root.reach path = none) :
    ∃ depth last next, root.StopsAt path depth last next := by
  obtain ⟨before, next, after, last, rfl, reached, absent⟩ := exists_last_reached h
  exact ⟨_, last, next, stopsAt_append reached absent after⟩

namespace StopsAt

theorem absent (h : root.StopsAt path depth last next) : last.child? next = none := by
  rw [← reach_concat h.reached, ← take_succ_of_following h.following, h.lost]

theorem exists_split (h : root.StopsAt path depth last next) :
    ∃ after, path = path.take depth ++ next :: after := by
  obtain ⟨inside, rfl⟩ := List.getElem?_eq_some_iff.1 h.following
  refine ⟨path.drop (depth + 1), ?_⟩
  rw [← List.drop_eq_getElem_cons inside, List.take_append_drop]

/-- No path that goes on below the depth leads to a value. -/
theorem reach_of_prefix (h : root.StopsAt path depth last next) {longer : Path}
    (part : path.take (depth + 1) <+: longer) : root.reach longer = none := by
  cases found : root.reach longer with
  | none => rfl
  | some w =>
    obtain ⟨v, reached⟩ := exists_reach_of_prefix part found
    rw [h.lost] at reached
    cases reached

theorem reach_eq_none (h : root.StopsAt path depth last next) : root.reach path = none :=
  h.reach_of_prefix (List.take_prefix (depth + 1) path)

theorem le (h : root.StopsAt path depth last next) {deeper : Nat} {w : Document}
    (reached : root.reach (path.take deeper) = some w) : deeper ≤ depth := by
  refine Nat.le_of_not_lt fun beyond => ?_
  rw [h.reach_of_prefix (List.take_prefix_take_left beyond)] at reached
  cases reached

theorem unique {other : Nat} {w : Document} {s : Segment}
    (h : root.StopsAt path depth last next) (h' : root.StopsAt path other w s) :
    other = depth ∧ w = last ∧ s = next := by
  obtain rfl : other = depth := Nat.le_antisymm (h.le h'.reached) (h'.le h.reached)
  exact ⟨rfl, Option.some.inj (h'.reached.symm.trans h.reached),
    Option.some.inj (h'.following.symm.trans h.following)⟩

theorem get_of_accepts (h : root.StopsAt path depth last next) (accepts : last.Accepts next) :
    root.get path = .error (.notFound (path.take (depth + 1))) := by
  obtain ⟨after, split⟩ := h.exists_split
  have read := get_of_absent h.reached accepts h.absent after
  rwa [← split, ← take_succ_of_following h.following] at read

theorem get_of_not_accepts (h : root.StopsAt path depth last next) (other : ¬ last.Accepts next) :
    root.get path = .error (next.misfit (path.take depth)) := by
  obtain ⟨after, split⟩ := h.exists_split
  have read := get_of_misfit h.reached other after
  rwa [← split] at read

/-- That nothing is found is said of containers of the right kind only. -/
theorem get_eq_notFound_iff (h : root.StopsAt path depth last next) :
    root.get path = .error (.notFound (path.take (depth + 1))) ↔ last.Accepts next := by
  refine ⟨fun read => ?_, h.get_of_accepts⟩
  by_cases accepts : last.Accepts next
  · exact accepts
  · rw [h.get_of_not_accepts accepts] at read
    cases next <;> cases read

theorem misses (h : root.StopsAt path depth last next) (accepts : last.Accepts next)
    {text : String} (parsed : Path.parse text = .ok path) : root.Misses text := by
  obtain ⟨after, split⟩ := h.exists_split
  rw [split] at parsed
  exact ⟨_, next, after, last, parsed, h.reached, accepts, h.absent⟩

theorem bars (h : root.StopsAt path depth last next) (other : ¬ last.Accepts next)
    {text : String} (parsed : Path.parse text = .ok path) :
    root.Bars text (next.misfit (path.take depth)) := by
  obtain ⟨after, split⟩ := h.exists_split
  rw [split] at parsed
  exact .misfit parsed h.reached other

end StopsAt

/-- Nothing is found where the path stops at a container of the right kind. -/
theorem lookup_eq_none_iff {text : String} : root.lookup text = .ok none ↔
    ∃ path depth last next, Path.parse text = .ok path ∧ root.StopsAt path depth last next ∧
      last.Accepts next := by
  constructor
  · intro answered
    rcases holds_or_misses_or_bars root text with ⟨w, holds⟩ | misses | ⟨fault, bars⟩
    · rw [lookup_of_holds holds] at answered
      cases answered
    · obtain ⟨before, next, after, last, parsed, reached, accepts, absent⟩ := misses
      exact ⟨_, _, last, next, parsed, stopsAt_append reached absent after, accepts⟩
    · rw [lookup_of_bars bars] at answered
      cases answered
  · rintro ⟨path, depth, last, next, parsed, stops, accepts⟩
    exact lookup_of_misses (stops.misses accepts parsed)

theorem stopsAt_of_leaf (leaf : w.IsLeaf) (inside : depth < path.length)
    (reached : root.reach (path.take depth) = some w) :
    root.StopsAt path depth w path[depth] := by
  have absent : w.child? path[depth] = none := child?_of_not_accepts (leaf.not_accepts _)
  have following : path[depth]? = some path[depth] := List.getElem?_eq_getElem inside
  refine ⟨following, reached, ?_⟩
  rw [take_succ_of_following following, reach_concat reached, absent]

/-- A path leads to a value, which is what is read, or it stops at one depth. There the error says
that nothing is found, and names the child, if and only if the last value is a container of the kind
that the next segment steps into, and else it says that the last value is no such container. A
lookup finds nothing in the first of these cases only; behind null and scalars it fails. -/
theorem get_names_deepest (root : Document) :
    (∀ path : Path,
      ((∃ w, root.reach path = some w ∧ root.get path = .ok w) ∧
        ∀ depth last next, ¬ root.StopsAt path depth last next) ∨
      ((root.reach path = none ∧ ∀ w, root.get path ≠ .ok w) ∧
        ∃ depth last next, root.StopsAt path depth last next ∧
          (∀ other w s, root.StopsAt path other w s → other = depth ∧ w = last ∧ s = next) ∧
          (root.get path = .error (.notFound (path.take (depth + 1))) ↔ last.Accepts next) ∧
          (¬ last.Accepts next → root.get path = .error (next.misfit (path.take depth))) ∧
          (PathError.notFound (path.take (depth + 1))).message =
            Path.display (path.take (depth + 1)) ++ ": " ++ next.absence)) ∧
    ∀ text : String,
      (root.lookup text = .ok none ↔
        ∃ path depth last next, Path.parse text = .ok path ∧ root.StopsAt path depth last next ∧
          last.Accepts next) ∧
      ∀ path depth w, Path.parse text = .ok path → depth < path.length →
        root.reach (path.take depth) = some w → w.IsLeaf →
        ∃ next, path[depth]? = some next ∧
          root.lookup text = .error (next.misfit (path.take depth)) := by
  refine ⟨fun path => ?_, fun text => ⟨lookup_eq_none_iff, ?_⟩⟩
  · cases found : root.reach path with
    | some w =>
      refine .inl ⟨⟨w, rfl, get_eq_ok_iff.2 found⟩, fun depth last next stops => ?_⟩
      rw [stops.reach_eq_none] at found
      cases found
    | none =>
      obtain ⟨depth, last, next, stops⟩ := exists_stopsAt found
      have unread (w : Document) : root.get path ≠ .ok w := fun read => by
        rw [get_eq_ok_iff, found] at read
        cases read
      refine .inr ⟨⟨rfl, unread⟩, depth, last, next, stops, fun other w s => stops.unique,
        stops.get_eq_notFound_iff, stops.get_of_not_accepts, ?_⟩
      rw [take_succ_of_following stops.following, PathError.message_notFound]
  · intro path depth w parsed inside reached leaf
    have stops := stopsAt_of_leaf leaf inside reached
    exact ⟨_, stops.following, lookup_of_bars (stops.bars (leaf.not_accepts _) parsed)⟩

/-- A position beyond the end is absent; a field of null or of an array is an error. -/
example :
    let server : Document := .object [("host", .null), ("ports", .array [.string "web"])]
    server.lookup "ports[1].name" = .ok none ∧
      server.lookup "host.name" = .error (.notAnObject [.field "host"]) ∧
      server.lookup "ports.web" = .error (.notAnObject [.field "ports"]) :=
  ⟨rfl, rfl, rfl⟩

end Document
end ResourceLoom
