import Mathlib.Data.List.Nodup
import ResourceLoom.Proofs.FieldInsertion
import ResourceLoom.Wire.Decode
import ResourceLoom.Wire.Encode

/-! # Encodings that lose nothing

A decoder reads the entries of a structure one by one into the value that the structure starts with.
What an encoder leaves out must therefore be what the structure starts with. `Reads` follows the
decoder along the written entries, and has one rule for each way of writing a field; a structure is
put together from these rules in the order in which its fields are written.
-/
namespace ResourceLoom.Wire

variable {α β σ : Type}

/-- Decoding gives back what has been encoded. -/
def Lossless (encode : α → Document) (decode : Decoder α) : Prop :=
  ∀ a, decode (.whole (encode a)) = .ok a

theorem lossless_text : Lossless .string text := fun _ => rfl

theorem lossless_integer : Lossless .int integer := fun _ => rfl

theorem lossless_document : Lossless id document := fun _ => rfl

section Values

variable {encode : α → Document} {decode : Decoder α}

theorem Lossless.option (h : Lossless encode decode) {a : α} (written : encode a ≠ .null) :
    option decode (.whole (encode a)) = .ok (some a) := by
  have given : isNull (.whole (encode a)) = false := by
    cases form : encode a with
    | null => exact absurd form written
    | _ => rfl
  rw [Wire.option, given, if_neg Bool.false_ne_true, h a]
  rfl

theorem Lossless.each (h : Lossless encode decode) (items : List α) :
    each decode ((items.map encode).map .whole) = .ok items := by
  induction items with
  | nil => rfl
  | cons a rest ih =>
    simp only [List.map_cons, Wire.each, h a, ih]
    rfl

theorem Lossless.list (h : Lossless encode decode) :
    Lossless (fun items => .array (items.map encode)) (list decode) :=
  fun items => h.each items

theorem lossless_oneOf {all : List α} {name : α → String}
    (named : ∀ a, all.find? (name · == name a) = some a) :
    Lossless (fun a => .string (name a)) (oneOf all name) := by
  intro a
  simp only [oneOf, Node.layer, named, ofOption]

theorem texts_mapValues (entries : List (String × String)) :
    texts (Fields.mapValues .whole (Fields.mapValues .string entries)) = .ok entries := by
  induction entries with
  | nil => rfl
  | cons entry rest ih =>
    simp only [Fields.mapValues, List.map_cons, texts] at ih ⊢
    rw [lossless_text, ih]
    rfl

theorem lossless_textMap : Lossless encodeTexts textMap := by
  intro map
  have same : TextMap.ofList map.entries = map := by
    simp only [TextMap.ofList, Fields.ofList_of_sorted map.sorted]
  calc textMap (.whole (encodeTexts map))
      = TextMap.ofList <$> .ok map.entries :=
        congrArg (TextMap.ofList <$> ·) (texts_mapValues map.entries)
    _ = .ok map := congrArg Except.ok same

end Values

/-- The fields take a structure from one state to another as they read the entries. The entries are
written in the order of the keys; the keys of fields that need not be present may be left out. -/
inductive Reads (fields : List (Field σ)) :
    List String → List (String × Document) → σ → σ → Prop where
  | nil (s : σ) : Reads fields [] [] s s
  | absent {key : String} {keys : List String} {entries : List (String × Document)}
      {field : Field σ} {s last : σ} (known : fields.find? (·.key == key) = some field)
      (free : field.needed = false) (further : Reads fields keys entries s last) :
      Reads fields (key :: keys) entries s last
  | present {key : String} {keys : List String} {d : Document}
      {entries : List (String × Document)} {field : Field σ} {s next last : σ}
      (known : fields.find? (·.key == key) = some field)
      (read : field.read (.whole d) s = .ok next) (further : Reads fields keys entries next last) :
      Reads fields (key :: keys) ((key, d) :: entries) s last

/-- Every needed field has been seen or is still to come. -/
def Expects (fields : List (Field σ)) (keys seen : List String) : Prop :=
  ∀ field ∈ fields, field.needed = true → field.key ∈ keys ∨ field.key ∈ seen

/-- No field and no key occurs twice, and the needed fields have their keys among the given ones. -/
structure Covers (fields : List (Field σ)) (keys : List String) : Prop where
  declared : (fields.map Field.key).Nodup
  distinct : keys.Nodup
  complete : ∀ field ∈ fields, field.needed = true → field.key ∈ keys

instance (fields : List (Field σ)) (keys : List String) : Decidable (Covers fields keys) :=
  decidable_of_iff ((fields.map Field.key).Nodup ∧ keys.Nodup ∧
      ∀ field ∈ fields, field.needed = true → field.key ∈ keys)
    ⟨fun ⟨declared, distinct, complete⟩ => ⟨declared, distinct, complete⟩,
      fun ⟨declared, distinct, complete⟩ => ⟨declared, distinct, complete⟩⟩

section Expects

variable {fields : List (Field σ)} {keys seen : List String} {key : String}

theorem Expects.all (h : Expects fields [] seen) :
    (fields.all fun field => !field.needed || field.key ∈ seen) = true := by
  rw [List.all_eq_true]
  intro field mem
  cases needed : field.needed with
  | false => rfl
  | true => simpa using h field mem needed

theorem Expects.present (h : Expects fields (key :: keys) seen) :
    Expects fields keys (key :: seen) := by
  intro field mem needed
  rcases h field mem needed with ahead | met
  · rcases List.mem_cons.1 ahead with rfl | later
    · exact .inr List.mem_cons_self
    · exact .inl later
  · exact .inr (List.mem_cons_of_mem key met)

theorem eq_of_key_eq {field other : Field σ} (declared : (fields.map Field.key).Nodup)
    (known : fields.find? (·.key == key) = some field) (mem : other ∈ fields)
    (same : other.key = key) : other = field := by
  have found : field.key = key := by simpa using List.find?_some known
  exact List.inj_on_of_nodup_map declared mem (List.mem_of_find?_eq_some known)
    (same.trans found.symm)

theorem Expects.absent {free : Field σ} (declared : (fields.map Field.key).Nodup)
    (known : fields.find? (·.key == key) = some free) (optional : free.needed = false)
    (h : Expects fields (key :: keys) seen) : Expects fields keys seen := by
  intro field mem needed
  refine (h field mem needed).imp (fun ahead => ?_) id
  rcases List.mem_cons.1 ahead with same | later
  · rw [eq_of_key_eq declared known mem same, optional] at needed
    cases needed
  · exact later

end Expects

section Structures

variable {fields : List (Field σ)} {keys seen : List String} {key : String}
  {written rest : List (String × Document)} {blank s last : σ}

/-- The decoder goes through the entries as `Reads` says, since it meets no key twice and misses no
needed field. -/
theorem readTable_of_reads (declared : (fields.map Field.key).Nodup)
    (reads : Reads fields keys written s last) (distinct : keys.Nodup)
    (fresh : ∀ key ∈ keys, key ∉ seen) (expects : Expects fields keys seen) :
    readTable fields seen (Fields.mapValues .whole written) s = .ok last := by
  induction reads generalizing seen with
  | nil s => rw [Fields.mapValues, List.map_nil, readTable, if_pos expects.all]
  | absent known free _ ih =>
    obtain ⟨-, later⟩ := List.forall_mem_cons.1 fresh
    exact ih distinct.of_cons later (expects.absent declared known free)
  | @present key keys d entries field s next last known read _ ih =>
    obtain ⟨once, others⟩ := List.nodup_cons.1 distinct
    obtain ⟨unseen, later⟩ := List.forall_mem_cons.1 fresh
    have fresh_rest : ∀ k ∈ keys, k ∉ key :: seen := fun k mem =>
      List.not_mem_cons_of_ne_of_not_mem (fun same => once (same ▸ mem)) (later k mem)
    have further := ih others fresh_rest expects.present
    simpa only [Fields.mapValues, List.map_cons, readTable, known, if_neg unseen, read]
      using further

theorem struct_of_reads (keys : List String) (covers : Covers fields keys)
    (reads : Reads fields keys (written ++ []) blank last) :
    struct blank fields (.whole (.object written)) = .ok last := by
  rw [List.append_nil] at reads
  exact readTable_of_reads covers.declared reads covers.distinct (fun _ _ => List.not_mem_nil)
    fun field mem needed => .inl (covers.complete field mem needed)

/-- What is made of a structure once it is read. -/
theorem made_of_struct {read : Except Fault σ} {make : σ → Except Fault β} {b : β}
    (done : read = .ok s) (made : make s = .ok b) : (read >>= make) = .ok b := by
  rw [done]
  exact made

variable {encode : α → Document} {decode : Decoder α}

theorem Reads.ofEntry {needed : Bool} {set : α → σ → σ} {d : Document} {a : α}
    (known : fields.find? (·.key == key) =
      some ⟨key, needed, fun node s => (set · s) <$> decode node⟩)
    (read : decode (.whole d) = .ok a) (further : Reads fields keys rest (set a s) last) :
    Reads fields (key :: keys) (entry key d ++ rest) s last := by
  refine .present known ?_ further
  simp only [read]
  rfl

theorem Reads.ofOption {set : Option α → σ → σ} {value : Option α}
    (known : fields.find? (·.key == key) = some (optional key (option decode) set))
    (initial : set none s = s) (lossless : Lossless encode decode)
    (given : ∀ a, encode a ≠ .null) (further : Reads fields keys rest (set value s) last) :
    Reads fields (key :: keys) (entryOfSome key encode value ++ rest) s last := by
  cases value with
  | none =>
    rw [initial] at further
    exact .absent known rfl further
  | some a => exact .ofEntry known (lossless.option (given a)) further

/-- A field may be left out where its value is the one that the structure starts with. -/
theorem Reads.ofOmitted {omitted : Bool} {set : α → σ → σ} {d : Document} {a : α}
    (known : fields.find? (·.key == key) = some (optional key decode set))
    (initial : omitted = true → set a s = s) (read : decode (.whole d) = .ok a)
    (further : Reads fields keys rest (set a s) last) :
    Reads fields (key :: keys) ((if omitted then [] else entry key d) ++ rest) s last := by
  cases omitted with
  | false => exact .ofEntry known read further
  | true =>
    rw [initial rfl] at further
    exact .absent known rfl further

theorem Reads.ofList {set : List α → σ → σ} {items : List α}
    (known : fields.find? (·.key == key) = some (optional key (list decode) set))
    (initial : set [] s = s) (lossless : Lossless encode decode)
    (further : Reads fields keys rest (set items s) last) :
    Reads fields (key :: keys) (entries key encode items ++ rest) s last := by
  refine .ofOmitted known (fun empty => ?_) (lossless.list items) further
  rw [List.isEmpty_iff.1 empty, initial]

theorem Reads.ofTexts {set : TextMap → σ → σ} {map : TextMap}
    (known : fields.find? (·.key == key) = some (optional key textMap set))
    (initial : set .empty s = s) (further : Reads fields keys rest (set map s) last) :
    Reads fields (key :: keys) (textEntries key map ++ rest) s last := by
  refine .ofOmitted known (fun empty => ?_) (lossless_textMap map) further
  obtain ⟨entries, sorted⟩ := map
  obtain rfl := List.isEmpty_iff.1 empty
  exact initial

end Structures

end ResourceLoom.Wire
