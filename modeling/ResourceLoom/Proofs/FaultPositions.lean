import ResourceLoom.Proofs.PathGrammar

/-! # Where the text of a path is at fault

The reader refuses a text at one of its characters, and names the character by the bytes before it.
What stands before it is nothing, a path, or a path and a point, so it can be continued to a path.
The reader's state says of what it has read so far which of these it is, and what an open bracket or
a name stands behind; every character keeps that, or it is where the fault is found.
-/
namespace ResourceLoom.Path

/-- The characters are the text of a path. -/
def Whole (chars : List Char) : Prop := ∃ items, Item.Spells items chars

theorem Whole.exists_parse {cs : List Char} (h : Whole cs) :
    ∃ path, parse (.ofList cs) = .ok path := by
  obtain ⟨items, spells⟩ := h
  obtain ⟨path, denoted⟩ := Item.exists_denoted items
  rw [← String.toList_ofList (l := cs)] at spells
  exact ⟨path, parse_of_spells spells denoted⟩

variable {c : Char} {before cs inside soFar consumed rest : List Char} {item : Item}

theorem whole_item (valid : item.Valid) : Whole (item.text true) := by
  refine ⟨[item], List.cons_ne_nil item [], by simpa using valid, ?_⟩
  simp [Item.spelling]

theorem Whole.concat (whole : Whole cs) (valid : item.Valid) : Whole (cs ++ item.text false) := by
  obtain ⟨items, nonempty, validItems, rfl⟩ := whole
  obtain ⟨first, others, rfl⟩ := List.exists_cons_of_ne_nil nonempty
  refine ⟨first :: others ++ [item], List.cons_ne_nil _ _, fun other mem => ?_, ?_⟩
  · rcases List.mem_append.1 mem with there | last
    · exact validItems other there
    · exact List.mem_singleton.1 last ▸ valid
  · simp [Item.spelling]

/-- An item in brackets can stand here: at the head or behind a path. -/
def Boundary (before : List Char) : Prop := before = [] ∨ Whole before

/-- A name can stand here: at the head or behind a path and a point. -/
def NameBoundary (before : List Char) : Prop :=
  before = [] ∨ ∃ cs, Whole cs ∧ before = cs ++ ['.']

theorem Boundary.whole (h : Boundary before) (valid : (Item.content inside).Valid) :
    Whole (before ++ '[' :: (inside ++ [']'])) := by
  rcases h with rfl | whole
  · exact whole_item valid
  · exact whole.concat valid

theorem NameBoundary.whole (h : NameBoundary before) (valid : (Item.name cs).Valid) :
    Whole (before ++ cs) := by
  rcases h with rfl | ⟨shorter, whole, rfl⟩
  · exact whole_item valid
  · rw [List.append_assoc]
    exact whole.concat valid

end Path

/-- The fault is found at a character between what stands before and behind it. -/
inductive PathFault.StandsAt : PathFault → List Char → Char → List Char → Prop where
  | leadingPoint (after : List Char) : StandsAt leadingPoint [] '.' after
  | missingName {before : List Char} {c : Char} (whole : Path.Whole before)
      (separator : isSeparator c = true) (after : List Char) :
      StandsAt missingName (before ++ ['.']) c after
  | trailingPoint {before : List Char} (whole : Path.Whole before) :
      StandsAt trailingPoint before '.' []
  | strayBracket {before : List Char} (boundary : Path.Boundary before) (after : List Char) :
      StandsAt strayBracket before ']' after
  | openBracket {before after : List Char} (boundary : Path.Boundary before)
      (unclosed : ']' ∉ after) : StandsAt openBracket before '[' after
  | emptyBrackets {before : List Char} (boundary : Path.Boundary before) (after : List Char) :
      StandsAt emptyBrackets before '[' (']' :: after)
  | afterBracket {before inside : List Char} {c : Char} (boundary : Path.Boundary before)
      (valid : (Path.Item.content inside).Valid) (notPoint : c ≠ '.') (notOpen : c ≠ '[')
      (after : List Char) : StandsAt afterBracket (before ++ '[' :: (inside ++ [']'])) c after

namespace Path

/-- Nothing, a path, or a path and a point. -/
def Beginning (cs : List Char) : Prop := Boundary cs ∨ NameBoundary cs

theorem beginning_of_standsAt {fault : PathFault} {after : List Char}
    (h : fault.StandsAt before c after) : Beginning before := by
  cases h with
  | leadingPoint => exact .inl (.inl rfl)
  | missingName whole => exact .inr (.inr ⟨_, whole, rfl⟩)
  | trailingPoint whole => exact .inl (.inr whole)
  | strayBracket boundary | openBracket boundary | emptyBrackets boundary => exact .inl boundary
  | afterBracket boundary valid => exact .inl (.inr (boundary.whole valid))

theorem Beginning.exists_shorter_parse (h : Beginning cs) :
    String.ofList cs = "" ∨ (∃ path, parse (.ofList cs) = .ok path) ∨
      ∃ shorter path, String.ofList cs = shorter ++ "." ∧ parse shorter = .ok path := by
  rcases h with (rfl | whole) | rfl | ⟨shorter, whole, rfl⟩
  · exact .inl rfl
  · exact .inr (.inl whole.exists_parse)
  · exact .inl rfl
  · obtain ⟨path, parsed⟩ := whole.exists_parse
    exact .inr (.inr ⟨_, path, String.ofList_append, parsed⟩)

/-- A beginning can be continued to a path. -/
theorem Beginning.exists_longer_parse (h : Beginning cs) :
    ∃ further path, parse (.ofList cs ++ further) = .ok path := by
  have name : (Item.name ['x']).Valid := ⟨List.cons_ne_nil _ _, by simp⟩
  obtain ⟨further, whole⟩ : ∃ further, Whole (cs ++ further) := by
    rcases h with (rfl | whole) | boundary
    · exact ⟨_, whole_item name⟩
    · exact ⟨[], by rwa [List.append_nil]⟩
    · exact ⟨_, boundary.whole name⟩
  obtain ⟨path, parsed⟩ := whole.exists_parse
  rw [String.ofList_append] at parsed
  exact ⟨_, path, parsed⟩

/-- What has been read leads from the head of a text to the state. -/
inductive Reached : Reading → List Char → Prop where
  | start : Reached .start []
  | point (whole : Whole cs) : Reached .point (cs ++ ['.'])
  | name (boundary : NameBoundary before) (valid : (Item.name soFar.reverse).Valid) :
      Reached (.name soFar) (before ++ soFar.reverse)
  | bracket (boundary : Boundary before) (open' : ∀ d ∈ soFar, d ≠ ']') :
      Reached (.bracket (byteCount before) soFar) (before ++ '[' :: soFar.reverse)
  | closed (boundary : Boundary before) (valid : (Item.content inside).Valid) :
      Reached .closed (before ++ '[' :: (inside ++ [']']))

/-- The fault stands at a character of the text, at a place that counts bytes. -/
def FaultIn (text : List Char) (found : PathFault × Nat) : Prop :=
  ∃ before c after, text = before ++ c :: after ∧ found.1.StandsAt before c after ∧
    found.2 = byteCount before

theorem byteCount_append (xs ys : List Char) :
    byteCount (xs ++ ys) = byteCount xs + byteCount ys := by
  induction xs with
  | nil => exact (Nat.zero_add _).symm
  | cons x xs ih => rw [List.cons_append, byteCount, byteCount, ih, Nat.add_assoc]

theorem byteCount_concat (cs : List Char) (c : Char) :
    byteCount (cs ++ [c]) = byteCount cs + c.utf8Size := byteCount_append cs [c]

theorem byteCount_eq_utf8ByteSize (cs : List Char) :
    byteCount cs = (String.ofList cs).utf8ByteSize := by
  induction cs with
  | nil => rfl
  | cons c cs ih =>
    rw [byteCount, ih, ← List.singleton_append, String.ofList_append, String.utf8ByteSize_append,
      ← String.singleton_eq_ofList, String.utf8ByteSize_singleton]

theorem map_cons_eq_error {s : Segment} {further : Except (PathFault × Nat) Path}
    {found : PathFault × Nat} (h : (s :: ·) <$> further = .error found) :
    further = .error found := by
  cases further with
  | error e => exact congrArg Except.error (Except.error.inj h)
  | ok rest => cases h

/-- A character is where the fault stands, or the reader goes on behind it and finds the fault
later. -/
def FoundBehind (consumed : List Char) (c : Char) (rest : List Char) (found : PathFault × Nat) :
    Prop :=
  FaultIn (consumed ++ c :: rest) found ∨
    ∃ next, Reached next (consumed ++ [c]) ∧
      read next (byteCount (consumed ++ [c])) rest = .error found

section Steps

variable {found : PathFault × Nat}

theorem found_of_point (whole : Whole consumed)
    (later : read .point (byteCount consumed + 1) rest = .error found) :
    FoundBehind consumed '.' rest found :=
  .inr ⟨.point, .point whole, by rwa [byteCount_concat]⟩

theorem found_of_open (boundary : Boundary consumed)
    (later : read (.bracket (byteCount consumed) []) (byteCount consumed + 1) rest =
      .error found) :
    FoundBehind consumed '[' rest found :=
  .inr ⟨.bracket _ [], .bracket boundary nofun, by rwa [byteCount_concat]⟩

theorem found_of_stray (boundary : Boundary consumed) (rest : List Char) :
    FoundBehind consumed ']' rest (.strayBracket, byteCount consumed) :=
  .inl ⟨consumed, ']', rest, rfl, .strayBracket boundary rest, rfl⟩

theorem found_of_first_plain (boundary : NameBoundary consumed) (plain : isSeparator c = false)
    (later : read (.name [c]) (byteCount consumed + c.utf8Size) rest = .error found) :
    FoundBehind consumed c rest found := by
  have valid : (Item.name [c].reverse).Valid := valid_name (List.cons_ne_nil c []) (by simpa)
  exact .inr ⟨.name [c], .name boundary valid, by rwa [byteCount_concat]⟩

theorem found_in_start (failed : read .start 0 (c :: rest) = .error found) :
    FoundBehind [] c rest found := by
  by_cases point : c = '.'
  · subst point
    cases failed
    exact .inl ⟨[], '.', rest, rfl, .leadingPoint rest, rfl⟩
  by_cases opening : c = '['
  · subst opening
    exact found_of_open (.inl rfl) failed
  by_cases closing : c = ']'
  · subst closing
    cases failed
    exact found_of_stray (.inl rfl) rest
  · have plain : isSeparator c = false := isSeparator_eq_false_iff.2 ⟨point, opening, closing⟩
    rw [read_start_plain plain] at failed
    exact found_of_first_plain (.inl rfl) plain failed

theorem found_in_point (whole : Whole cs)
    (failed : read .point (byteCount (cs ++ ['.'])) (c :: rest) = .error found) :
    FoundBehind (cs ++ ['.']) c rest found := by
  cases separator : isSeparator c with
  | true =>
    rw [read, if_pos separator] at failed
    cases failed
    exact .inl ⟨_, c, rest, rfl, .missingName whole separator rest, rfl⟩
  | false =>
    rw [read_point_plain separator] at failed
    exact found_of_first_plain (.inr ⟨cs, whole, rfl⟩) separator failed

theorem found_in_name (boundary : NameBoundary before) (valid : (Item.name soFar.reverse).Valid)
    (failed : read (.name soFar) (byteCount (before ++ soFar.reverse)) (c :: rest) = .error found) :
    FoundBehind (before ++ soFar.reverse) c rest found := by
  have whole : Whole (before ++ soFar.reverse) := boundary.whole valid
  by_cases point : c = '.'
  · subst point
    exact found_of_point whole (map_cons_eq_error failed)
  by_cases opening : c = '['
  · subst opening
    exact found_of_open (.inr whole) (map_cons_eq_error failed)
  by_cases closing : c = ']'
  · subst closing
    cases failed
    exact found_of_stray (.inr whole) rest
  · have plain : isSeparator c = false := isSeparator_eq_false_iff.2 ⟨point, opening, closing⟩
    have longer : (Item.name (c :: soFar).reverse).Valid := by
      refine valid_name (List.cons_ne_nil c soFar) (List.forall_mem_cons.2 ⟨plain, fun d mem => ?_⟩)
      exact isSeparator_eq_false_iff.2 (valid.2 d (List.mem_reverse.2 mem))
    have same : before ++ (c :: soFar).reverse = before ++ soFar.reverse ++ [c] := by simp
    rw [read_name_plain plain, ← byteCount_concat] at failed
    exact .inr ⟨.name (c :: soFar), same ▸ .name boundary longer, failed⟩

theorem found_in_bracket (boundary : Boundary before) (open' : ∀ d ∈ soFar, d ≠ ']')
    (failed : read (.bracket (byteCount before) soFar)
      (byteCount (before ++ '[' :: soFar.reverse)) (c :: rest) = .error found) :
    FoundBehind (before ++ '[' :: soFar.reverse) c rest found := by
  rw [read] at failed
  split at failed
  · rename_i closing
    subst closing
    split at failed
    · rename_i empty
      subst empty
      cases failed
      exact .inl ⟨before, '[', ']' :: rest, by simp, .emptyBrackets boundary rest, rfl⟩
    · rename_i nonempty
      have later := map_cons_eq_error failed
      have same : before ++ '[' :: (soFar.reverse ++ [']']) =
          before ++ '[' :: soFar.reverse ++ [']'] := by simp
      exact .inr ⟨.closed, same ▸ .closed boundary (valid_content nonempty open'),
        by rwa [byteCount_concat]⟩
  · rename_i notClosing
    have same : before ++ '[' :: (c :: soFar).reverse = before ++ '[' :: soFar.reverse ++ [c] := by
      simp
    rw [← byteCount_concat] at failed
    exact .inr ⟨.bracket _ (c :: soFar),
      same ▸ .bracket boundary (List.forall_mem_cons.2 ⟨notClosing, open'⟩), failed⟩

theorem found_in_closed (boundary : Boundary before) (valid : (Item.content inside).Valid)
    (failed : read .closed (byteCount (before ++ '[' :: (inside ++ [']']))) (c :: rest) =
      .error found) :
    FoundBehind (before ++ '[' :: (inside ++ [']'])) c rest found := by
  have whole : Whole (before ++ '[' :: (inside ++ [']'])) := boundary.whole valid
  by_cases point : c = '.'
  · subst point
    exact found_of_point whole failed
  by_cases opening : c = '['
  · subst opening
    exact found_of_open (.inr whole) failed
  · have refused (place : Nat) :
        read .closed place (c :: rest) = .error (.afterBracket, place) := by
      simp [read, point, opening]
    rw [refused] at failed
    cases failed
    exact .inl ⟨_, c, rest, rfl, .afterBracket boundary valid point opening rest, rfl⟩

theorem found_of_reached {state : Reading} (reached : Reached state consumed)
    (failed : read state (byteCount consumed) (c :: rest) = .error found) :
    FoundBehind consumed c rest found := by
  cases reached with
  | start => exact found_in_start failed
  | point whole => exact found_in_point whole failed
  | name boundary valid => exact found_in_name boundary valid failed
  | bracket boundary open' => exact found_in_bracket boundary open' failed
  | closed boundary valid => exact found_in_closed boundary valid failed

/-- At the end of the text a point or an open bracket is left. -/
theorem faultIn_of_end {state : Reading} (reached : Reached state consumed)
    (failed : read state (byteCount consumed) [] = .error found) : FaultIn consumed found := by
  cases reached with
  | start | name | closed => cases failed
  | @point cs whole =>
    cases failed
    refine ⟨cs, '.', [], rfl, .trailingPoint whole, ?_⟩
    rw [byteCount_concat]
    exact Nat.add_sub_cancel (byteCount cs) 1
  | @bracket before soFar boundary open' =>
    cases failed
    have unclosed : ']' ∉ soFar.reverse := fun mem => open' ']' (List.mem_reverse.1 mem) rfl
    exact ⟨before, '[', soFar.reverse, rfl, .openBracket boundary unclosed, rfl⟩

theorem faultIn_of_reached {state : Reading} (reached : Reached state consumed)
    (failed : read state (byteCount consumed) rest = .error found) :
    FaultIn (consumed ++ rest) found := by
  -- What has been read grows by one character at each step, and the reader's state stays reached.
  induction rest generalizing state consumed with
  | nil =>
    rw [List.append_nil]
    exact faultIn_of_end reached failed
  | cons c rest ih =>
    rcases found_of_reached reached failed with here | ⟨next, onwards, later⟩
    · exact here
    · rw [List.append_cons]
      exact ih onwards later

end Steps

/-- Only the empty text is called empty, and every other fault is one in its characters. -/
theorem parse_eq_error_cases {text : String} {e : PathError} (rejected : parse text = .error e) :
    (text = "" ∧ e = .emptyPath) ∨
      ∃ fault place, e = .malformed text fault place ∧ FaultIn text.toList (fault, place) := by
  unfold parse at rejected
  split at rejected
  · rename_i fault place failed
    cases rejected
    exact .inr ⟨fault, place, rfl, faultIn_of_reached .start failed⟩
  · rename_i found
    cases rejected
    refine .inl ⟨String.toList_eq_nil_iff.1 ?_, rfl⟩
    by_contra nonempty
    obtain ⟨items, spells, denoted⟩ := exists_spells_of_read nonempty found
    cases denoted
    exact spells.nonempty rfl
  · cases rejected

/-- An empty text is refused for that, and only an empty one. Any other refused text has its fault
at the character behind as many bytes as the error says. What stands before this character is
nothing, a path, or a path and a point, and can be continued to a path. -/
theorem parse_error_points {text : String} {e : PathError} (rejected : parse text = .error e) :
    (e = .emptyPath ↔ text = "") ∧
    (text ≠ "" → ∃ (fault : PathFault) (before : String) (c : Char) (after : String),
      text = before ++ String.singleton c ++ after ∧
      e = .malformed text fault before.utf8ByteSize ∧
      fault.StandsAt before.toList c after.toList ∧
      (before = "" ∨ (∃ path, parse before = .ok path) ∨
        ∃ shorter path, before = shorter ++ "." ∧ parse shorter = .ok path) ∧
      ∃ further path, parse (before ++ further) = .ok path) := by
  rcases parse_eq_error_cases rejected with ⟨rfl, rfl⟩ | ⟨fault, place, rfl, located⟩
  · exact ⟨by simp, fun nonempty => absurd rfl nonempty⟩
  obtain ⟨before, c, after, split, stands, counted⟩ := located
  have nonempty : text ≠ "" := by
    rintro rfl
    simp at split
  have joined : text = String.ofList before ++ String.singleton c ++ String.ofList after := by
    apply String.toList_inj.1
    simp [split]
  have beginning : Beginning before := beginning_of_standsAt stands
  refine ⟨by simpa using nonempty, fun _ => ⟨fault, .ofList before, c, .ofList after, joined, ?_,
    ?_, beginning.exists_shorter_parse, beginning.exists_longer_parse⟩⟩
  · rw [← byteCount_eq_utf8ByteSize, ← counted]
  · rwa [String.toList_ofList, String.toList_ofList]

/-- Two letters of two bytes each stand before the fault, which is behind ten bytes and not behind
eight. -/
theorem parse_error_points_wideLetters :
    parse "größe[0]x" = .error (.malformed "größe[0]x" .afterBracket 10) ∧
      ∃ (before : String) (c : Char) (after : String),
        "größe[0]x" = before ++ String.singleton c ++ after ∧ before.utf8ByteSize = 10 ∧
        PathFault.afterBracket.StandsAt before.toList c after.toList ∧
        ∃ further path, parse (before ++ further) = .ok path := by
  have rejected : parse "größe[0]x" = .error (.malformed "größe[0]x" .afterBracket 10) := rfl
  obtain ⟨fault, before, c, after, split, same, stands, -, viable⟩ :=
    (parse_error_points rejected).2 (by decide)
  obtain ⟨-, rfl, counted⟩ := PathError.malformed.inj same
  exact ⟨rejected, before, c, after, split, counted.symm, stands, viable⟩

end Path
end ResourceLoom
