import Mathlib.Data.List.Basic
import Mathlib.Data.List.Forall2
import ResourceLoom.Patch.Selection
import ResourceLoom.Proofs.LongestRuns
import ResourceLoom.Proofs.SelectedPatches

/-! # Lists of patch types as texts

A text lists names between commas, with blanks around them. The names of patch types among them are
selected, each once and in the order of first mention, and all other names are passed over. So a
patch whose type is not mentioned is passed over, too, as soon as the text mentions any type. A text
that mentions none selects nothing, and that stands for all types.
-/
namespace ResourceLoom

namespace Text

/-- The part is the name with blanks around it, which the name neither begins nor ends with. -/
structure Surrounds (part name : List Char) : Prop where
  around : ∃ left right, part = left ++ (name ++ right) ∧ (∀ c ∈ left, isBlank c = true) ∧
    ∀ c ∈ right, isBlank c = true
  first : ∀ c ∈ name.head?, isBlank c = false
  last : ∀ c ∈ name.reverse.head?, isBlank c = false

/-- The text is made of the parts with a separator between each and the next. -/
inductive Joins (separator : Char) : List (List Char) → List Char → Prop where
  | last {part : List Char} (single : separator ∉ part) : Joins separator [part] part
  | cons {part text : List Char} {parts : List (List Char)} (single : separator ∉ part)
      (rest : Joins separator parts text) :
      Joins separator (part :: parts) (part ++ separator :: text)

variable {separator c : Char} {part name text : List Char} {parts : List (List Char)}

theorem surrounds_trim (part : List Char) : Surrounds part (trim part) := by
  obtain ⟨left, rest, rfl, leading⟩ := LongestRun.exists_split isBlank part
  obtain ⟨run, kept, split, trailing⟩ := LongestRun.exists_split isBlank rest.reverse
  have rest_eq : rest = kept.reverse ++ run.reverse := by
    rw [← List.reverse_append, ← split, List.reverse_reverse]
  have trimmed : trim (left ++ rest) = kept.reverse := by
    rw [trim, leading.dropWhile_append, split, trailing.dropWhile_append]
  rw [trimmed]
  refine ⟨⟨left, run.reverse, by rw [rest_eq], leading.all, fun c mem => ?_⟩, fun c first => ?_, ?_⟩
  · exact trailing.all c (List.mem_reverse.1 mem)
  · refine leading.stops c ?_
    rw [rest_eq, List.head?_append, Option.mem_def.1 first]
    rfl
  · rw [List.reverse_reverse]
    exact trailing.stops

theorem trim_of_surrounds (h : Surrounds part name) : trim part = name := by
  obtain ⟨⟨left, right, rfl, blankLeft, blankRight⟩, first, last⟩ := h
  by_cases empty : name = []
  · subst empty
    have blank : LongestRun isBlank (left ++ right) [] :=
      ⟨fun c mem => (List.mem_append.1 mem).elim (blankLeft c) (blankRight c), nofun⟩
    have nothing := blank.dropWhile_append
    rw [List.append_nil] at nothing
    rw [List.nil_append, trim, nothing]
    rfl
  · have leading : LongestRun isBlank left (name ++ right) := by
      refine ⟨blankLeft, ?_⟩
      rwa [List.head?_append_of_ne_nil _ empty]
    have trailing : LongestRun isBlank right.reverse name.reverse :=
      ⟨fun c mem => blankRight c (List.mem_reverse.1 mem), last⟩
    rw [trim, leading.dropWhile_append, List.reverse_append, trailing.dropWhile_append,
      List.reverse_reverse]

theorem separated_eq_splitOn (separator : Char) (text : List Char) :
    separated separator text = text.splitOn separator := by
  induction text with
  | nil => rfl
  | cons c rest ih =>
    rw [List.splitOn_cons_eq_if_modifyHead, ← ih, separated]
    cases parts : separated separator rest with
    | nil => exact absurd (ih.symm.trans parts) (List.splitOn_ne_nil separator rest)
    | cons part parts => simp

theorem Joins.eq_separated (h : Joins separator parts text) : parts = separated separator text := by
  rw [separated_eq_splitOn]
  induction h with
  | last single => exact (List.splitOn_eq_singleton single).symm
  | @cons part text parts single rest ih =>
    rw [List.splitOn_append_cons_self, List.splitOn_eq_singleton single, ← ih]
    rfl

/-- A further character belongs to the first part, unless it is the separator. -/
theorem Joins.push (h : Joins separator (part :: parts) text) (other : c ≠ separator) :
    Joins separator ((c :: part) :: parts) (c :: text) := by
  have single (first : separator ∉ part) : separator ∉ c :: part :=
    mt List.mem_cons.1 (not_or.2 ⟨other.symm, first⟩)
  cases h with
  | last first => exact .last (single first)
  | cons first rest => exact .cons (single first) rest

theorem joins_separated (separator : Char) (text : List Char) :
    Joins separator (separated separator text) text := by
  induction text with
  | nil => exact .last List.not_mem_nil
  | cons c rest ih =>
    rw [separated]
    cases parts : separated separator rest with
    | nil => exact absurd parts (separated_eq_splitOn .. ▸ List.splitOn_ne_nil separator rest)
    | cons part parts =>
      rw [parts] at ih
      by_cases same : c = separator
      · subst same
        simpa using Joins.cons List.not_mem_nil ih
      · simpa [same] using ih.push same

end Text

namespace PatchType

theorem ofName?_eq_some_iff {name : String} {type : PatchType} :
    ofName? name = some type ↔ type.name = name := by
  constructor
  · intro found
    simpa using List.find?_some found
  · rintro rfl
    cases type <;> rfl

end PatchType

namespace RenderConfig

/-- The text lists the names between commas, with blanks around each. -/
def Lists (text : List Char) (names : List String) : Prop :=
  ∃ parts, Text.Joins ',' parts text ∧
    List.Forall₂ (fun part name => Text.Surrounds part (String.toList name)) parts names

theorem lists_names (text : String) : Lists text.toList (names text) := by
  refine ⟨_, Text.joins_separated ',' text.toList, ?_⟩
  rw [names, List.forall₂_map_right_iff, List.forall₂_same]
  intro part mem
  rw [String.toList_ofList]
  exact Text.surrounds_trim part

theorem Lists.eq_names {text : String} {found : List String} (h : Lists text.toList found) :
    found = names text := by
  obtain ⟨parts, joins, surrounded⟩ := h
  rw [names, ← joins.eq_separated]
  clear joins
  induction surrounded with
  | nil => rfl
  | cons surrounds _ ih =>
    rw [List.map_cons, ← ih, Text.trim_of_surrounds surrounds, String.ofList_toList]

/-- The first value is mentioned before the second one is. -/
def MentionedBefore {α : Type} (mentions : List α) (first second : α) : Prop :=
  ∃ before after, mentions = before ++ first :: after ∧ second ∉ before

section MentionedBefore

variable {α : Type} {mentions : List α} {first second : α}

theorem MentionedBefore.append (h : MentionedBefore mentions first second) (more : List α) :
    MentionedBefore (mentions ++ more) first second := by
  obtain ⟨before, after, rfl, later⟩ := h
  exact ⟨before, after ++ more, by simp, later⟩

theorem mentionedBefore_concat (mentioned : first ∈ mentions) (new : second ∉ mentions) :
    MentionedBefore (mentions ++ [second]) first second := by
  obtain ⟨before, after, rfl⟩ := List.append_of_mem mentioned
  exact ⟨before, after ++ [second], by simp, fun earlier => new (List.mem_append_left _ earlier)⟩

end MentionedBefore

/-- Each type that is mentioned stands among the types once, and they stand in the order of their
first mention. -/
structure FirstMentions (mentions types : List PatchType) : Prop where
  mem : ∀ type, type ∈ types ↔ type ∈ mentions
  nodup : types.Nodup
  ordered : types.Pairwise (MentionedBefore mentions)

theorem firstMentions_empty : FirstMentions [] empty.patchTypes :=
  ⟨fun _ => Iff.rfl, List.nodup_nil, List.Pairwise.nil⟩

namespace FirstMentions

variable {config : RenderConfig} {mentions types : List PatchType} {type : PatchType}

theorem again (h : FirstMentions mentions types) (known : type ∈ types) :
    FirstMentions (mentions ++ [type]) types := by
  refine ⟨fun other => ?_, h.nodup, h.ordered.imp fun before => before.append [type]⟩
  rw [h.mem, List.mem_append, List.mem_singleton]
  refine ⟨.inl, fun mentioned => mentioned.elim id ?_⟩
  rintro rfl
  exact (h.mem other).1 known

theorem concat (h : FirstMentions mentions types) (new : type ∉ types) :
    FirstMentions (mentions ++ [type]) (types ++ [type]) := by
  refine ⟨fun other => ?_, ?_, ?_⟩
  · rw [List.mem_append, List.mem_append, h.mem]
  · refine List.nodup_append.2
      ⟨h.nodup, List.pairwise_singleton _ _, fun other mem last single => ?_⟩
    rintro rfl
    exact new (List.mem_singleton.1 single ▸ mem)
  · refine List.pairwise_append.2 ⟨h.ordered.imp fun before => before.append [type],
      List.pairwise_singleton _ _, fun first mem last single => ?_⟩
    rw [List.mem_singleton.1 single]
    exact mentionedBefore_concat ((h.mem first).1 mem) (mt (h.mem type).2 new)

theorem insert (h : FirstMentions mentions config.patchTypes) (type : PatchType) :
    FirstMentions (mentions ++ [type]) (config.insert type).patchTypes := by
  by_cases known : type ∈ config.patchTypes
  · have same : config.insert type = config := if_pos known
    rw [same]
    exact h.again known
  · have longer : config.insert type = ⟨config.patchTypes ++ [type]⟩ := if_neg known
    rw [longer]
    exact h.concat known

theorem insertAll (h : FirstMentions mentions config.patchTypes) (types : List PatchType) :
    FirstMentions (mentions ++ types) (types.foldl RenderConfig.insert config).patchTypes := by
  induction types generalizing config mentions with
  | nil => rwa [List.append_nil]
  | cons type rest ih =>
    rw [List.append_cons, List.foldl_cons]
    exact ih (h.insert type)

end FirstMentions

theorem firstMentions_ofTypes (types : List PatchType) :
    FirstMentions types (ofTypes types).patchTypes :=
  firstMentions_empty.insertAll types

section Text

variable {text : String} {found : List String} {type first second : PatchType}

theorem mem_ofText_iff (lists : Lists text.toList found) :
    type ∈ (ofText text).patchTypes ↔ type.name ∈ found := by
  rw [ofText, (firstMentions_ofTypes _).mem, List.mem_filterMap, lists.eq_names]
  simp [PatchType.ofName?_eq_some_iff]

theorem mentionedBefore_name {names : List String}
    (h : MentionedBefore (names.filterMap PatchType.ofName?) first second) :
    MentionedBefore names first.name second.name := by
  obtain ⟨before, after, split, later⟩ := h
  obtain ⟨front, back, rfl, rfl, behind⟩ := List.filterMap_eq_append_iff.1 split
  obtain ⟨unknown, name, rest, rfl, none_known, named, -⟩ := List.filterMap_eq_cons_iff.1 behind
  obtain rfl := PatchType.ofName?_eq_some_iff.1 named
  refine ⟨front ++ unknown, rest, by rw [List.append_assoc], fun earlier => ?_⟩
  have known : PatchType.ofName? second.name = some second := PatchType.ofName?_eq_some_iff.2 rfl
  rcases List.mem_append.1 earlier with there | passed
  · exact later (List.mem_filterMap.2 ⟨_, there, known⟩)
  · rw [none_known _ passed] at known
    cases known

theorem pairwise_ofText (lists : Lists text.toList found) :
    (ofText text).patchTypes.Pairwise fun first second =>
      MentionedBefore found first.name second.name := by
  obtain rfl := lists.eq_names
  exact (firstMentions_ofTypes _).ordered.imp mentionedBefore_name

end Text

/-- The names that a text lists are determined, and where a patch type is among them, every patch of
a type that is not is passed over. The types selected are those among the names, each once and in
the order of first mention. -/
theorem ofText_selects_mentioned (text : String) :
    (∃ names, Lists text.toList names) ∧
    ∀ names, Lists text.toList names →
      ((∃ type : PatchType, type.name ∈ names) → ∀ patch : Patch, patch.type.name ∉ names →
        ∀ documents, patch.apply (ofText text).patchTypes documents = .done documents) ∧
      (∀ type, type ∈ (ofText text).patchTypes ↔ type.name ∈ names) ∧
      (ofText text).patchTypes.Nodup ∧
      (ofText text).patchTypes.Pairwise fun first second =>
        MentionedBefore names first.name second.name := by
  refine ⟨⟨_, lists_names text⟩, fun names lists => ⟨?_, fun type => mem_ofText_iff lists,
    (firstMentions_ofTypes _).nodup, pairwise_ofText lists⟩⟩
  rintro ⟨type, mentioned⟩ patch other documents
  have limited : (ofText text).patchTypes ≠ [] :=
    List.ne_nil_of_mem ((mem_ofText_iff lists).2 mentioned)
  exact Patch.apply_of_not_mem limited (mt (mem_ofText_iff lists).1 other) documents

/-- A composite with a region, and a composed document that has none yet. -/
def regionOnly : Documents :=
  ⟨.object [("spec", .object [("region", .string "eu")])], .object [("spec", .object [])]⟩

/-- A text with two types among blank and unknown names, one of them twice. -/
def setsAndStatus : String := " PatchSet, ,Bogus,ToCompositeFieldPath,PatchSet"

theorem ofText_selects_mentioned_setsAndStatus :
    Lists setsAndStatus.toList ["PatchSet", "", "Bogus", "ToCompositeFieldPath", "PatchSet"] ∧
      (ofText setsAndStatus).patchTypes = [.patchSet, .toComposite] ∧
      (Patch.fromComposite "spec.region").apply (ofText setsAndStatus).patchTypes regionOnly =
        .done regionOnly := by
  have lists : Lists setsAndStatus.toList
      ["PatchSet", "", "Bogus", "ToCompositeFieldPath", "PatchSet"] := lists_names setsAndStatus
  have mentioned : ∃ type : PatchType,
      type.name ∈ ["PatchSet", "", "Bogus", "ToCompositeFieldPath", "PatchSet"] :=
    ⟨.patchSet, List.mem_cons_self⟩
  obtain ⟨-, selects⟩ := ofText_selects_mentioned setsAndStatus
  exact ⟨lists, rfl, (selects _ lists).1 mentioned _ (by decide) regionOnly⟩

/-- Where no patch type is mentioned, a patch of a type that is not is carried out all the same. -/
theorem ofText_unknown_name_selects_all :
    Lists "Bogus".toList ["Bogus"] ∧ "Bogus" ≠ "" ∧
      (Patch.fromComposite "spec.region").type.name ∉ ["Bogus"] ∧
      (Patch.fromComposite "spec.region").apply (ofText "Bogus").patchTypes regionOnly ≠
        .done regionOnly := by
  refine ⟨lists_names "Bogus", by decide, by decide, fun skipped => ?_⟩
  have copied : ((Patch.fromComposite "spec.region").apply (ofText "Bogus").patchTypes
      regionOnly).state.composed = .object [("spec", .object [("region", .string "eu")])] := rfl
  rw [skipped] at copied
  cases copied

end RenderConfig
end ResourceLoom
