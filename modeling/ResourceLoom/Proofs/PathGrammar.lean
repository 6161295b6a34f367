import Mathlib.Data.List.Basic
import Mathlib.Data.List.Forall2
import ResourceLoom.Path.Parse
import ResourceLoom.Proofs.LongestRuns
import ResourceLoom.Proofs.Numerals

/-! # The grammar of field paths

The text of a path is one item and any number of further ones. An item is a name or a content in
brackets, and a name behind another item has a point before it. The reader accepts exactly these
texts. Each of them is spelled by one list of items only, whose segments it returns: a name is a
field, and a content is a position when it writes a number of 64 bits, else a field too.
-/
namespace ResourceLoom

theorem isSeparator_eq_false_iff {c : Char} :
    isSeparator c = false ↔ c ≠ '.' ∧ c ≠ '[' ∧ c ≠ ']' := by
  simp [isSeparator, and_assoc]

namespace Path

/-- A name, or what stands between two brackets. -/
inductive Item where
  | name (chars : List Char)
  | content (chars : List Char)

namespace Item

/-- One or more characters: in a name neither points nor brackets, in a content anything but a
closing bracket. -/
def Valid : Item → Prop
  | name cs => cs ≠ [] ∧ ∀ c ∈ cs, c ≠ '.' ∧ c ≠ '[' ∧ c ≠ ']'
  | content cs => cs ≠ [] ∧ ∀ c ∈ cs, c ≠ ']'

/-- The text of an item at the head of a path or behind another one. -/
def text (head : Bool) : Item → List Char
  | name cs => if head then cs else '.' :: cs
  | content cs => '[' :: (cs ++ [']'])

/-- The segment that an item stands for. -/
inductive Denotes : Item → Segment → Prop where
  | name (cs : List Char) : Denotes (name cs) (.field (.ofList cs))
  | position {cs : List Char} {n : Nat} (written : Decimal.Numeral cs n)
      (fits : n < UInt64.size) : Denotes (content cs) (.index (.ofNat n))
  | field {cs : List Char} (other : ∀ n, Decimal.Numeral cs n → UInt64.size ≤ n) :
      Denotes (content cs) (.field (.ofList cs))

def spelling : List Item → List Char
  | [] => []
  | first :: rest => first.text true ++ rest.flatMap (text false)

/-- The text is one item and any number of further ones. -/
structure Spells (items : List Item) (text : List Char) : Prop where
  nonempty : items ≠ []
  valid : ∀ item ∈ items, item.Valid
  spelled : spelling items = text

theorem denotes_ofContent (cs : List Char) : (content cs).Denotes (ofContent cs) := by
  unfold ofContent
  cases h : Decimal.word? cs with
  | some w =>
    obtain ⟨n, written, fits, rfl⟩ := Decimal.word?_eq_some_iff.1 h
    exact .position written fits
  | none =>
    refine .field fun n written => Nat.le_of_not_lt fun fits => ?_
    have read := Decimal.word?_eq_some_iff.2 ⟨n, written, fits, rfl⟩
    rw [h] at read
    cases read

theorem exists_denoted (items : List Item) : ∃ path, List.Forall₂ Denotes items path := by
  induction items with
  | nil => exact ⟨[], .nil⟩
  | cons item items ih =>
    obtain ⟨path, denoted⟩ := ih
    cases item with
    | name cs => exact ⟨_, .cons (.name cs) denoted⟩
    | content cs => exact ⟨_, .cons (denotes_ofContent cs) denoted⟩

theorem ofContent_of_denotes {cs : List Char} {s : Segment} (h : (content cs).Denotes s) :
    ofContent cs = s := by
  unfold ofContent
  cases h with
  | position written fits => rw [Decimal.word?_eq_some_iff.2 ⟨_, written, fits, rfl⟩]
  | field other =>
    cases h : Decimal.word? cs with
    | none => rfl
    | some w =>
      obtain ⟨n, written, fits, -⟩ := Decimal.word?_eq_some_iff.1 h
      exact absurd fits (Nat.not_lt_of_le (other n written))

end Item

section Read

variable {c : Char} {cs : List Char}

theorem read_start_plain (plain : isSeparator c = false) (position : Nat) :
    read .start position (c :: cs) = read (.name [c]) (position + c.utf8Size) cs := by
  simp [read, isSeparator_eq_false_iff.1 plain]

theorem read_start_open (position : Nat) :
    read .start position ('[' :: cs) = read (.bracket position []) (position + 1) cs := rfl

theorem read_point_plain (plain : isSeparator c = false) (position : Nat) :
    read .point position (c :: cs) = read (.name [c]) (position + c.utf8Size) cs := by
  simp [read, plain]

theorem read_name_plain (plain : isSeparator c = false) (soFar : List Char) (position : Nat) :
    read (.name soFar) position (c :: cs) =
      read (.name (c :: soFar)) (position + c.utf8Size) cs := by
  simp [read, isSeparator_eq_false_iff.1 plain]

theorem read_name_point (cs soFar : List Char) (position : Nat) :
    read (.name soFar) position ('.' :: cs) =
      (.field (.ofList soFar.reverse) :: ·) <$> read .point (position + 1) cs := rfl

theorem read_name_open (soFar : List Char) (position : Nat) :
    read (.name soFar) position ('[' :: cs) =
      (.field (.ofList soFar.reverse) :: ·) <$>
        read (.bracket position []) (position + 1) cs := rfl

theorem read_closed_point (cs : List Char) (position : Nat) :
    read .closed position ('.' :: cs) = read .point (position + 1) cs := rfl

theorem read_closed_open (position : Nat) :
    read .closed position ('[' :: cs) = read (.bracket position []) (position + 1) cs := rfl

/-- The number of bytes of a text. -/
def byteCount : List Char → Nat
  | [] => 0
  | c :: rest => c.utf8Size + byteCount rest

theorem read_name_append (h : ∀ c ∈ cs, isSeparator c = false) (soFar : List Char)
    (position : Nat) (rest : List Char) :
    read (.name soFar) position (cs ++ rest) =
      read (.name (cs.reverse ++ soFar)) (position + byteCount cs) rest := by
  induction cs generalizing soFar position with
  | nil => rfl
  | cons c cs ih =>
    obtain ⟨plain, others⟩ := List.forall_mem_cons.1 h
    rw [List.cons_append, read_name_plain plain, ih others]
    simp [byteCount, Nat.add_assoc]

theorem read_bracket_append (h : ']' ∉ cs) (opened : Nat) (soFar : List Char) (position : Nat)
    (rest : List Char) :
    read (.bracket opened soFar) position (cs ++ rest) =
      read (.bracket opened (cs.reverse ++ soFar)) (position + byteCount cs) rest := by
  induction cs generalizing soFar position with
  | nil => rfl
  | cons c cs ih =>
    obtain ⟨notClosing, others⟩ := not_or.1 (mt List.mem_cons.2 h)
    have step : read (.bracket opened soFar) position (c :: (cs ++ rest)) =
        read (.bracket opened (c :: soFar)) (position + c.utf8Size) (cs ++ rest) := by
      simp [read, Ne.symm notClosing]
    rw [List.cons_append, step, ih others]
    simp [byteCount, Nat.add_assoc]

/-- A closed bracket is one segment, whatever follows it. -/
theorem read_bracketed (nonempty : cs ≠ []) (h : ']' ∉ cs) (opened position : Nat)
    (rest : List Char) :
    read (.bracket opened []) position (cs ++ ']' :: rest) =
      (ofContent cs :: ·) <$> read .closed (position + byteCount cs + 1) rest := by
  rw [read_bracket_append h]
  simp [read, nonempty]

end Read

section Spelled

variable {cs rest : List Char} {s : Segment} {path : Path}

theorem read_name_item (valid : (Item.name cs).Valid)
    (behindName : ∀ soFar position,
      read (.name soFar) position rest = .ok (.field (.ofList soFar.reverse) :: path))
    (position : Nat) :
    read .start position (cs ++ rest) = .ok (.field (.ofList cs) :: path) ∧
      read .point position (cs ++ rest) = .ok (.field (.ofList cs) :: path) := by
  obtain ⟨nonempty, plain⟩ := valid
  obtain ⟨c, name, rfl⟩ := List.exists_cons_of_ne_nil nonempty
  obtain ⟨plainFirst, plainName⟩ :=
    List.forall_mem_cons.1 fun d mem => isSeparator_eq_false_iff.2 (plain d mem)
  have named (position : Nat) : read (.name [c]) position (name ++ rest) =
      .ok (.field (.ofList (c :: name)) :: path) := by
    rw [read_name_append plainName, behindName, List.reverse_append, List.reverse_reverse]
    rfl
  constructor
  · rw [List.cons_append, read_start_plain plainFirst, named]
  · rw [List.cons_append, read_point_plain plainFirst, named]

theorem read_content_item (valid : (Item.content cs).Valid) (denotes : (Item.content cs).Denotes s)
    (behindBracket : ∀ position, read .closed position rest = .ok path) (opened position : Nat) :
    read (.bracket opened []) position (cs ++ ']' :: rest) = .ok (s :: path) := by
  have notClosing : ']' ∉ cs := fun mem => valid.2 ']' mem rfl
  rw [read_bracketed valid.1 notClosing, behindBracket, Item.ofContent_of_denotes denotes]
  rfl

variable {items : List Item}

/-- Further items are read behind a name or behind a closed bracket. -/
theorem read_items (valid : ∀ item ∈ items, item.Valid)
    (denoted : List.Forall₂ Item.Denotes items path) :
    (∀ soFar position, read (.name soFar) position (items.flatMap (Item.text false)) =
      .ok (.field (.ofList soFar.reverse) :: path)) ∧
    ∀ position, read .closed position (items.flatMap (Item.text false)) = .ok path := by
  -- A name leaves the reader behind a name and a content behind a bracket, so each of the two
  -- statements needs both of them for the rest.
  induction denoted with
  | nil => exact ⟨fun soFar position => rfl, fun position => rfl⟩
  | @cons item s items path denotes denoted ih =>
    obtain ⟨validFirst, validRest⟩ := List.forall_mem_cons.1 valid
    obtain ⟨behindName, behindBracket⟩ := ih validRest
    rw [List.flatMap_cons]
    cases item with
    | name cs =>
      cases denotes
      have named := read_name_item validFirst behindName
      constructor
      · intro soFar position
        have step := read_name_point (cs ++ items.flatMap (Item.text false)) soFar position
        rw [(named _).2] at step
        exact step
      · intro position
        have step := read_closed_point (cs ++ items.flatMap (Item.text false)) position
        exact step.trans (named _).2
    | content cs =>
      have bracketed := read_content_item validFirst denotes behindBracket
      simp only [Item.text, List.cons_append, List.append_assoc, List.nil_append]
      constructor
      · intro soFar position
        rw [read_name_open, bracketed]
        rfl
      · intro position
        rw [read_closed_open, bracketed]

theorem read_spelling (nonempty : items ≠ []) (valid : ∀ item ∈ items, item.Valid)
    (denoted : List.Forall₂ Item.Denotes items path) :
    read .start 0 (Item.spelling items) = .ok path := by
  cases denoted with
  | nil => exact absurd rfl nonempty
  | @cons item s rest path denotes denoted =>
    obtain ⟨validFirst, validRest⟩ := List.forall_mem_cons.1 valid
    obtain ⟨behindName, behindBracket⟩ := read_items validRest denoted
    rw [Item.spelling]
    cases item with
    | name cs =>
      cases denotes
      exact (read_name_item validFirst behindName 0).1
    | content cs =>
      have bracketed := read_content_item validFirst denotes behindBracket
      simp only [Item.text, List.cons_append, List.append_assoc, List.nil_append]
      rw [read_start_open, bracketed]

end Spelled

/-- The text belongs to items behind another one, which stand for the path. -/
structure Further (items : List Item) (text : List Char) (path : Path) : Prop where
  valid : ∀ item ∈ items, item.Valid
  spelled : items.flatMap (Item.text false) = text
  denoted : List.Forall₂ Item.Denotes items path

namespace Further

variable {item : Item} {items : List Item} {text : List Char} {s : Segment} {path : Path}

theorem nil : Further [] [] [] := ⟨nofun, rfl, .nil⟩

theorem cons (valid : item.Valid) (denotes : item.Denotes s) (h : Further items text path) :
    Further (item :: items) (item.text false ++ text) (s :: path) where
  valid := List.forall_mem_cons.2 ⟨valid, h.valid⟩
  spelled := by rw [List.flatMap_cons, h.spelled]
  denoted := .cons denotes h.denoted

/-- A name at the head has no point before it. -/
theorem spells_of_point (h : Further items ('.' :: text) path) : Item.Spells items text := by
  cases items with
  | nil => cases h.spelled
  | cons first rest =>
    have spelled := h.spelled
    rw [List.flatMap_cons] at spelled
    cases first with
    | name cs => exact ⟨List.cons_ne_nil _ _, h.valid, (List.cons.inj spelled).2⟩
    | content cs => exact absurd (List.cons.inj spelled).1 (by decide)

theorem spells_of_open (h : Further items ('[' :: text) path) :
    Item.Spells items ('[' :: text) := by
  cases items with
  | nil => cases h.spelled
  | cons first rest =>
    have spelled := h.spelled
    rw [List.flatMap_cons] at spelled
    cases first with
    | name cs => exact absurd (List.cons.inj spelled).1 (by decide)
    | content cs => exact ⟨List.cons_ne_nil _ _, h.valid, spelled⟩

end Further

/-- The reader is behind the head of a path, and what it holds of an item can become one. -/
def Reading.Begun : Reading → Prop
  | .start => False
  | .point | .closed => True
  | .name soFar => soFar ≠ [] ∧ ∀ c ∈ soFar, isSeparator c = false
  | .bracket _ soFar => ∀ c ∈ soFar, c ≠ ']'

/-- The text of the item that the reader is in, as it is written behind another one. -/
def Reading.held : Reading → List Char
  | .start | .closed => []
  | .point => ['.']
  | .name soFar => '.' :: soFar.reverse
  | .bracket _ soFar => '[' :: soFar.reverse

theorem valid_name {soFar : List Char} (nonempty : soFar ≠ [])
    (plain : ∀ c ∈ soFar, isSeparator c = false) : (Item.name soFar.reverse).Valid := by
  refine ⟨mt List.reverse_eq_nil_iff.1 nonempty, fun c mem => ?_⟩
  exact isSeparator_eq_false_iff.1 (plain c (List.mem_reverse.1 mem))

theorem valid_content {soFar : List Char} (nonempty : soFar ≠ []) (open' : ∀ c ∈ soFar, c ≠ ']') :
    (Item.content soFar.reverse).Valid :=
  ⟨mt List.reverse_eq_nil_iff.1 nonempty, fun c mem => open' c (List.mem_reverse.1 mem)⟩

theorem map_cons_eq_ok {s : Segment} {further : Except (PathFault × Nat) Path} {path : Path}
    (h : (s :: ·) <$> further = .ok path) : ∃ rest, further = .ok rest ∧ path = s :: rest := by
  cases further with
  | error e => cases h
  | ok rest => exact ⟨rest, rfl, (Except.ok.inj h).symm⟩

/-- Behind the head of a path, what the reader holds and what it goes on to read are items. -/
def ReadsItems (cs : List Char) : Prop :=
  ∀ state position path, Reading.Begun state → read state position cs = .ok path →
    ∃ items, Further items (state.held ++ cs) path

section ReadsItems

variable {c : Char} {cs : List Char} {path : Path} {position : Nat}

theorem readsItems_nil : ReadsItems [] := by
  intro state position path begun h
  cases state with
  | start => exact begun.elim
  | point | bracket => cases h
  | closed =>
    cases h
    exact ⟨[], .nil⟩
  | name soFar =>
    cases h
    have last := Further.nil.cons (valid_name begun.1 begun.2) (.name _)
    exact ⟨_, last⟩

theorem further_of_read_point (later : ReadsItems cs)
    (h : read .point position (c :: cs) = .ok path) :
    ∃ items, Further items (Reading.point.held ++ c :: cs) path := by
  rw [read] at h
  split at h
  · cases h
  · rename_i plain
    have begun : (Reading.name [c]).Begun := ⟨List.cons_ne_nil c [], by simpa using plain⟩
    exact later _ _ _ begun h

theorem further_of_read_name {soFar : List Char} (begun : (Reading.name soFar).Begun)
    (later : ReadsItems cs) (h : read (.name soFar) position (c :: cs) = .ok path) :
    ∃ items, Further items ((Reading.name soFar).held ++ c :: cs) path := by
  have valid := valid_name begun.1 begun.2
  rw [read] at h
  split at h
  · rename_i point
    obtain ⟨tail, further, rfl⟩ := map_cons_eq_ok h
    obtain ⟨items, rest⟩ := later .point _ _ trivial further
    subst point
    exact ⟨_, rest.cons valid (.name _)⟩
  split at h
  · rename_i opening
    obtain ⟨tail, further, rfl⟩ := map_cons_eq_ok h
    obtain ⟨items, rest⟩ := later (.bracket position []) _ _ nofun further
    subst opening
    exact ⟨_, rest.cons valid (.name _)⟩
  split at h
  · cases h
  · rename_i notPoint notOpen notClosing
    have plain : isSeparator c = false :=
      isSeparator_eq_false_iff.2 ⟨notPoint, notOpen, notClosing⟩
    have longer : (Reading.name (c :: soFar)).Begun :=
      ⟨List.cons_ne_nil c soFar, List.forall_mem_cons.2 ⟨plain, begun.2⟩⟩
    obtain ⟨items, rest⟩ := later _ _ _ longer h
    exact ⟨items, by simpa [Reading.held] using rest⟩

theorem further_of_read_bracket {opened : Nat} {soFar : List Char}
    (begun : (Reading.bracket opened soFar).Begun) (later : ReadsItems cs)
    (h : read (.bracket opened soFar) position (c :: cs) = .ok path) :
    ∃ items, Further items ((Reading.bracket opened soFar).held ++ c :: cs) path := by
  rw [read] at h
  split at h
  · rename_i closing
    split at h
    · cases h
    · rename_i nonempty
      obtain ⟨tail, further, rfl⟩ := map_cons_eq_ok h
      obtain ⟨items, rest⟩ := later .closed _ _ trivial further
      have whole := rest.cons (valid_content nonempty begun) (Item.denotes_ofContent _)
      subst closing
      exact ⟨_, by simpa [Reading.held, Item.text] using whole⟩
  · rename_i notClosing
    have longer : (Reading.bracket opened (c :: soFar)).Begun :=
      List.forall_mem_cons.2 ⟨notClosing, begun⟩
    obtain ⟨items, rest⟩ := later _ _ _ longer h
    exact ⟨items, by simpa [Reading.held] using rest⟩

theorem further_of_read_closed (later : ReadsItems cs)
    (h : read .closed position (c :: cs) = .ok path) :
    ∃ items, Further items (Reading.closed.held ++ c :: cs) path := by
  rw [read] at h
  split at h
  · rename_i point
    subst point
    exact later .point _ _ trivial h
  split at h
  · rename_i opening
    subst opening
    exact later (.bracket position []) _ _ nofun h
  · cases h

theorem readsItems (cs : List Char) : ReadsItems cs := by
  -- Each character leads from one state behind the head to another.
  induction cs with
  | nil => exact readsItems_nil
  | cons c cs later =>
    intro state position path begun h
    cases state with
    | start => exact begun.elim
    | point => exact further_of_read_point later h
    | name soFar => exact further_of_read_name begun later h
    | bracket opened soFar => exact further_of_read_bracket begun later h
    | closed => exact further_of_read_closed later h

end ReadsItems

theorem parse_eq_ok_iff {text : String} {path : Path} :
    parse text = .ok path ↔ path ≠ [] ∧ read .start 0 text.toList = .ok path := by
  unfold parse
  cases h : read .start 0 text.toList with
  | error fault => simp
  | ok found =>
    cases found with
    | nil =>
      simp only [reduceCtorEq, Except.ok.injEq, ne_eq, false_iff, not_and]
      exact fun nonempty empty => nonempty empty.symm
    | cons s rest =>
      simp only [Except.ok.injEq, ne_eq]
      exact ⟨fun same => ⟨same ▸ List.cons_ne_nil s rest, same⟩, And.right⟩

theorem exists_spells_of_read {chars : List Char} {path : Path} (nonempty : chars ≠ [])
    (found : read .start 0 chars = .ok path) :
    ∃ items, Item.Spells items chars ∧ List.Forall₂ Item.Denotes items path := by
  obtain ⟨c, cs, rfl⟩ := List.exists_cons_of_ne_nil nonempty
  rw [read] at found
  split at found
  · cases found
  split at found
  · rename_i opening
    obtain ⟨items, rest⟩ := readsItems cs (.bracket 0 []) _ _ nofun found
    subst opening
    exact ⟨items, rest.spells_of_open, rest.denoted⟩
  split at found
  · cases found
  · rename_i notPoint notOpen notClosing
    have plain : isSeparator c = false :=
      isSeparator_eq_false_iff.2 ⟨notPoint, notOpen, notClosing⟩
    have begun : (Reading.name [c]).Begun := ⟨List.cons_ne_nil c [], by simpa using plain⟩
    obtain ⟨items, rest⟩ := readsItems cs _ _ _ begun found
    exact ⟨items, rest.spells_of_point, rest.denoted⟩

theorem exists_spells_of_parse {text : String} {path : Path} (h : parse text = .ok path) :
    ∃ items, Item.Spells items text.toList ∧ List.Forall₂ Item.Denotes items path := by
  obtain ⟨nonempty, found⟩ := parse_eq_ok_iff.1 h
  refine exists_spells_of_read (fun empty => nonempty ?_) found
  rw [empty] at found
  exact (Except.ok.inj found).symm

theorem parse_of_spells {text : String} {items : List Item} {path : Path}
    (spells : Item.Spells items text.toList) (denoted : List.Forall₂ Item.Denotes items path) :
    parse text = .ok path := by
  have nonempty : path ≠ [] := by
    rintro rfl
    cases denoted
    exact spells.nonempty rfl
  refine parse_eq_ok_iff.2 ⟨nonempty, ?_⟩
  rw [← spells.spelled]
  exact read_spelling spells.nonempty spells.valid denoted

namespace Item

/-- Behind a name stands nothing, a point or a bracket. -/
theorem longestRun_name {cs : List Char} (valid : (name cs).Valid) (rest : List Item) :
    LongestRun (fun c => !isSeparator c) cs (rest.flatMap (text false)) := by
  constructor
  · intro c mem
    simp [isSeparator_eq_false_iff.2 (valid.2 c mem)]
  · intro c first
    cases rest with
    | nil => cases first
    | cons next rest => cases next <;> cases first <;> rfl

theorem longestRun_content {cs : List Char} (valid : (content cs).Valid) (rest : List Char) :
    LongestRun (fun c => c != ']') cs (']' :: rest) := by
  constructor
  · intro c mem
    simpa using valid.2 c mem
  · intro c first
    cases first
    rfl

theorem eq_of_flatMap_text_eq {items others : List Item} (valid : ∀ item ∈ items, item.Valid)
    (validOthers : ∀ item ∈ others, item.Valid)
    (same : items.flatMap (text false) = others.flatMap (text false)) : items = others := by
  induction items generalizing others with
  | nil =>
    cases others with
    | nil => rfl
    | cons other others => cases other <;> cases same
  | cons item items ih =>
    obtain ⟨validItem, validItems⟩ := List.forall_mem_cons.1 valid
    cases others with
    | nil => cases item <;> cases same
    | cons other others =>
      obtain ⟨validOther, validLater⟩ := List.forall_mem_cons.1 validOthers
      rw [List.flatMap_cons, List.flatMap_cons] at same
      cases item with
      | name cs =>
        cases other with
        | name ds =>
          obtain ⟨rfl, later⟩ := (longestRun_name validItem items).unique
            (longestRun_name validOther others) (List.cons.inj same).2
          rw [ih validItems validLater later]
        | content ds => exact absurd (List.cons.inj same).1 (by decide)
      | content cs =>
        cases other with
        | name ds => exact absurd (List.cons.inj same).1 (by decide)
        | content ds =>
          simp only [text, List.cons_append, List.append_assoc, List.nil_append,
            List.cons.injEq, true_and] at same
          obtain ⟨rfl, later⟩ :=
            (longestRun_content validItem _).unique (longestRun_content validOther _) same
          rw [ih validItems validLater (List.cons.inj later).2]

/-- The first character tells whether the first item is a name, whose missing point can then be put
before it. -/
theorem Spells.flatMap_text {items : List Item} {chars : List Char} (h : Spells items chars) :
    items.flatMap (text false) = if chars.head? = some '[' then chars else '.' :: chars := by
  obtain ⟨nonempty, valid, rfl⟩ := h
  obtain ⟨first, rest, rfl⟩ := List.exists_cons_of_ne_nil nonempty
  cases first with
  | name cs =>
    have validName := valid _ List.mem_cons_self
    obtain ⟨c, cs, rfl⟩ := List.exists_cons_of_ne_nil validName.1
    have notOpen : c ≠ '[' := (validName.2 c List.mem_cons_self).2.1
    simp [spelling, text, notOpen]
  | content cs => rfl

theorem Spells.unique {items others : List Item} {chars : List Char} (h : Spells items chars)
    (h' : Spells others chars) : items = others :=
  eq_of_flatMap_text_eq h.valid h'.valid (h.flatMap_text.trans h'.flatMap_text.symm)

end Item

/-- Exactly the texts of the grammar are read. Each of them is spelled by one list of items, and it
is read as the segments for which they stand. -/
theorem parse_iff_spells (text : String) :
    ((∃ path, parse text = .ok path) ↔ ∃ items, Item.Spells items text.toList) ∧
    (∀ items others, Item.Spells items text.toList → Item.Spells others text.toList →
      items = others) ∧
    ∀ items, Item.Spells items text.toList → ∀ path,
      parse text = .ok path ↔ List.Forall₂ Item.Denotes items path := by
  refine ⟨⟨?_, ?_⟩, fun items others h h' => h.unique h', fun items spells path => ⟨?_, ?_⟩⟩
  · rintro ⟨path, read⟩
    obtain ⟨items, spells, -⟩ := exists_spells_of_parse read
    exact ⟨items, spells⟩
  · rintro ⟨items, spells⟩
    obtain ⟨path, denoted⟩ := Item.exists_denoted items
    exact ⟨path, parse_of_spells spells denoted⟩
  · intro read
    obtain ⟨others, spelled, denoted⟩ := exists_spells_of_parse read
    rwa [spells.unique spelled]
  · exact parse_of_spells spells

/-- A name may be digits, and brackets may hold points, opening brackets and signed numbers. -/
example : parse "7.a[b[c.d][+07][-1][18446744073709551616]" =
    .ok [.field "7", .field "a", .field "b[c.d", .index 7, .field "-1",
      .field "18446744073709551616"] := rfl

end Path
end ResourceLoom
