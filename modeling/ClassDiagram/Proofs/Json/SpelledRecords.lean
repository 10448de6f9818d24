import ClassDiagram.Proofs.Json.SkippedValues
import ClassDiagram.Proofs.Json.SpelledValues
import Mathlib.Data.List.Nodup

/-! Readers of records against JSON values. A record is spelled by an object with its fields in any
order among any other members, or by the list of its first fields. Reading changes a value field by
field; what is proved of the loops is about the fields that are still to come.
-/

namespace ClassDiagram.Json

-----------------------------------------------------------------------------------------
-- Spellings of records
-----------------------------------------------------------------------------------------

/-- How the value of one field of a record is spelled. -/
structure FieldSpelling where
  name : String
  SpelledBy : Json → Prop
  /-- The field may be left out. -/
  Omissible : Prop

/-- A field is spelled once, or left out where that is allowed. -/
def FieldSpelling.SpelledByAll (field : FieldSpelling) : List Json → Prop
  | [] => field.Omissible
  | [json] => field.SpelledBy json
  | _ => False

namespace FieldSpelling

variable {α : Type}

/-- A value that may be absent; where it is, it may be left out or written as `null`. -/
def optional (name : String) (Spells : α → Json → Prop) (value : Option α) : FieldSpelling where
  name
  SpelledBy := SpellsOption Spells value
  Omissible := value = none

/-- A list; where it is empty, it may be left out. -/
def list (name : String) (Spells : α → Json → Prop) (values : List α) : FieldSpelling where
  name
  SpelledBy := SpellsList Spells values
  Omissible := values = []

end FieldSpelling

/-- The values of the members with the given key. -/
def valuesOf (name : String) (members : List (String × Json)) : List Json :=
  (members.filter fun member => member.1 = name).map Prod.snd

/-- Each field has a key of its own, in any place; all other keys and their values are free. -/
def SpelledInObject (fields : List FieldSpelling) (members : List (String × Json)) : Prop :=
  ∀ field ∈ fields, field.SpelledByAll (valuesOf field.name members)

/-- The items spell the first fields in order, and the other fields are left out. -/
def SpelledInList : List FieldSpelling → List Json → Prop
  | fields, [] => ∀ field ∈ fields, field.Omissible
  | [], _ :: _ => False
  | field :: fields, item :: items => field.SpelledBy item ∧ SpelledInList fields items

def SpelledAsRecord (fields : List FieldSpelling) : Json → Prop
  | .object members => SpelledInObject fields members
  | .list items => SpelledInList fields items
  | _ => False

theorem spelledInList_nil_iff {fields : List FieldSpelling}
    : SpelledInList fields [] ↔ ∀ field ∈ fields, field.Omissible := by
  cases fields <;> rfl

@[simp] theorem valuesOf_nil (name : String) : valuesOf name [] = [] :=
  rfl

@[simp] theorem valuesOf_cons_same (name : String) (json : Json) (members : List (String × Json))
    : valuesOf name ((name, json) :: members) = json :: valuesOf name members := by
  simp [valuesOf]

theorem valuesOf_cons_other {name key : String} (different : key ≠ name) (json : Json)
    (members : List (String × Json))
    : valuesOf name ((key, json) :: members) = valuesOf name members := by
  simp [valuesOf, different]

theorem valuesOf_eq_nil {name : String} {members : List (String × Json)}
    (absent : name ∉ members.map Prod.fst)
    : valuesOf name members = [] := by
  rw [valuesOf, List.map_eq_nil_iff, List.filter_eq_nil_iff]
  rintro member hm same
  exact absent (List.mem_map.mpr ⟨member, hm, by simpa using same⟩)

/-- A field that may not be spelled again is spelled by the value at hand alone. -/
theorem FieldSpelling.spelledByAll_cons_iff (field : FieldSpelling) (json : Json)
    (others : List Json)
    : field.SpelledByAll (json :: others) ↔ field.SpelledBy json ∧ others = [] := by
  cases others <;> simp [SpelledByAll]

/-- An object with all fields in their order spells the record, by induction on the fields. -/
theorem spelledInObject_of_forall₂ {fields : List FieldSpelling} {members : List (String × Json)}
    (names : (fields.map (·.name)).Nodup)
    (spelled
      : List.Forall₂ (fun field member => member.1 = field.name ∧ field.SpelledBy member.2)
          fields members)
    : SpelledInObject fields members := by
  induction spelled with
  | nil => simp [SpelledInObject]
  | @cons field member fields members first others ih =>
      obtain ⟨name, json⟩ := member
      obtain ⟨rfl, first⟩ := first
      obtain ⟨fresh, names⟩ := List.nodup_cons.mp names
      have keys : members.map Prod.fst = fields.map (·.name) := by
        rw [← List.forall₂_eq_eq_eq, List.forall₂_map_left_iff, List.forall₂_map_right_iff]
        exact (others.imp fun _ _ spelled => spelled.1).flip
      refine List.forall_mem_cons.mpr ⟨?_, fun other ho => ?_⟩
      · rw [valuesOf_cons_same, FieldSpelling.spelledByAll_cons_iff]
        exact ⟨first, valuesOf_eq_nil (by rwa [keys])⟩
      · have different : field.name ≠ other.name := by
          intro same
          exact fresh (List.mem_map.mpr ⟨other, ho, same.symm⟩)
        rw [valuesOf_cons_other different]
        exact ih names other ho

-----------------------------------------------------------------------------------------
-- Parts of a record
-----------------------------------------------------------------------------------------

/-- A field that may be left out, with its reader, its spelling and its place in the record. -/
structure RecordPart (α : Type) where
  Value : Type
  name : String
  reader : Reader Value
  get : α → Value
  set : Value → α → α
  get_set : ∀ value x, get (set value x) = value
  Spells : Value → Json → Prop

namespace RecordPart

variable {α β : Type}

def optional (name : String) (value : Reader β) (Spells : β → Json → Prop) (get : α → Option β)
    (set : Option β → α → α) (get_set : ∀ value x, get (set value x) = value := by intros; rfl)
    : RecordPart α where
  Value := Option β
  name
  reader := Reader.nullable value
  get
  set
  get_set
  Spells := SpellsOption Spells

def list (name : String) (element : Reader β) (Spells : β → Json → Prop) (get : α → List β)
    (set : List β → α → α) (get_set : ∀ value x, get (set value x) = value := by intros; rfl)
    : RecordPart α where
  Value := List β
  name
  reader := Reader.list element
  get
  set
  get_set
  Spells := SpellsList Spells

def field (part : RecordPart α) : Reader.Field α :=
  .optional part.name part.reader part.set

/-- How the field of the new value is spelled; left out, it is as in the old one. -/
def spelling (part : RecordPart α) (old new : α) : FieldSpelling where
  name := part.name
  SpelledBy := part.Spells (part.get new)
  Omissible := part.get new = part.get old

/-- How the field of the new value is spelled after members with the given keys. -/
def spellingAfter (part : RecordPart α) (seen : List String) (old new : α) : FieldSpelling where
  name := part.name
  SpelledBy := fun json => part.name ∉ seen ∧ part.Spells (part.get new) json
  Omissible := part.get new = part.get old

@[simp] theorem spellingAfter_name (part : RecordPart α) (seen : List String) (old new : α)
    : (part.spellingAfter seen old new).name = part.name :=
  rfl

/-- At first no key was seen. -/
@[simp] theorem spellingAfter_nil (part : RecordPart α) (old new : α)
    : part.spellingAfter [] old new = part.spelling old new := by
  simp [spellingAfter, spelling]

end RecordPart

/-- A record is made of its parts: they are told apart by name, they are set without a change to
each other, and they are all that there is.
-/
structure Reader.Record.MadeOf {α : Type} (record : Reader.Record α) (parts : List (RecordPart α))
    : Prop where
  fields_eq : record.fields = parts.map RecordPart.field
  names_nodup : (parts.map RecordPart.name).Nodup
  get_set_other : ∀ part ∈ parts, ∀ other ∈ parts,
    other.name ≠ part.name → ∀ value x, other.get (part.set value x) = other.get x
  ext : ∀ {x y}, (∀ part ∈ parts, part.get x = part.get y) → x = y

section
variable {α : Type} {record : Reader.Record α} {parts : List (RecordPart α)}

theorem Reader.Record.MadeOf.required_eq_false (made : record.MadeOf parts) {field : Field α}
    (h : field ∈ record.fields)
    : field.required = false := by
  rw [made.fields_eq] at h
  obtain ⟨part, -, rfl⟩ := List.mem_map.mp h
  rfl

theorem Reader.Record.MadeOf.eq_of_name_eq (made : record.MadeOf parts) {part other : RecordPart α}
    (hp : part ∈ parts) (ho : other ∈ parts) (same : other.name = part.name)
    : other = part :=
  List.inj_on_of_nodup_map made.names_nodup ho hp same

/-- A value is known once all of its parts are. -/
theorem Reader.Record.MadeOf.eq_iff (made : record.MadeOf parts) {x y : α}
    : x = y ↔ ∀ part ∈ parts, part.get y = part.get x := by
  constructor
  · rintro rfl _ _
    rfl
  · exact fun same => (made.ext same).symm

/-- A name is looked up among the fields as among the parts. -/
theorem Reader.Record.MadeOf.find?_eq (made : record.MadeOf parts) (name : String)
    : record.fields.find? (·.name == name)
      = (parts.find? (·.name == name)).map RecordPart.field := by
  rw [made.fields_eq, List.find?_map]
  rfl

/-- A field is read as the change to a value that the text spells. -/
theorem RecordPart.agrees_field (part : RecordPart α) {budget : Nat}
    (agrees : Agrees (part.reader budget) part.Spells)
    : Agrees (part.field.read budget) fun change json =>
        ∃ value, part.set value = change ∧ part.Spells value json := by
  intro s rest json h change after
  refine takes_map_iff.trans ?_
  simp only [agrees h]
  aesop

-----------------------------------------------------------------------------------------
-- Lists of fields
-----------------------------------------------------------------------------------------

theorem BeginsItems.takes_endOfList_nil {first : Bool} {s rest : List Char}
    (h : BeginsItems first s [] rest)
    : Takes (Reader.endOfList s) () rest := by
  cases h with
  | closed start =>
      unfold Reader.endOfList
      split
      · next found =>
          obtain rfl := List.tail_eq_of_cons_eq (found.symm.trans start)
          exact ⟨_, rfl⟩
      · next found => cases found.symm.trans start
      · next found => cases found.symm.trans start
      · next other _ _ => exact (other _ start).elim

theorem not_takes_endOfList {s tail : List Char} {c : Char} (start : skipSpace s = c :: tail)
    (item : c ≠ ']') (after : List Char)
    : ¬ Takes (Reader.endOfList s) () after := by
  unfold Reader.endOfList
  split
  · next found => exact absurd (List.head_eq_of_cons_eq (start.symm.trans found)) item
  · next found => cases found.symm.trans start
  · next found => split <;> exact not_takes_error
  · exact not_takes_error

/-- A list with more items than fields is not read. -/
theorem BeginsItems.not_takes_endOfList_cons {first : Bool} {s rest : List Char} {item : Json}
    {items : List Json} (h : BeginsItems first s (item :: items) rest) (after : List Char)
    : ¬ Takes (Reader.endOfList s) () after := by
  cases h with
  | first head tail =>
      obtain ⟨c, t, start, isFirst⟩ := head.exists_first
      exact not_takes_endOfList start isFirst.ne_bracket after
  | later comma head tail => exact not_takes_endOfList comma (by decide) after

/-- Setting a part changes none of the parts around it. -/
theorem Reader.Record.MadeOf.get_set_around (made : record.MadeOf parts)
    {done left : List (RecordPart α)} {part other : RecordPart α}
    (split : done ++ part :: left = parts) (ho : other ∈ done ++ left) (value : part.Value) (x : α)
    : other.get (part.set value x) = other.get x := by
  have names : (part.name :: (done ++ left).map RecordPart.name).Nodup := by
    have nodup := made.names_nodup
    rw [← split, List.map_append, List.map_cons, List.nodup_middle] at nodup
    rwa [List.map_append]
  have different : other.name ≠ part.name := by
    intro same
    exact (List.nodup_cons.mp names).1 (same ▸ List.mem_map_of_mem ho)
  refine made.get_set_other part ?_ other ?_ different value x
  · simp [← split]
  · rw [← split]
    simp only [List.mem_append, List.mem_cons] at ho ⊢
    tauto

/-- What is still to come after a part is the same whether the part was set or not, but for the part
itself.
-/
theorem Reader.Record.MadeOf.spelledInList_set_iff (made : record.MadeOf parts)
    {done left : List (RecordPart α)} {part : RecordPart α} (split : done ++ part :: left = parts)
    (value : part.Value) (old new : α) (items : List Json)
    : (∀ other ∈ done ++ [part], other.get new = other.get (part.set value old))
          ∧ SpelledInList (left.map (·.spelling (part.set value old) new)) items
      ↔ (∀ other ∈ done, other.get new = other.get old)
        ∧ part.get new = value
        ∧ SpelledInList (left.map (·.spelling old new)) items := by
  have around {other : RecordPart α} (ho : other ∈ done ++ left)
      : other.get (part.set value old) = other.get old :=
    made.get_set_around split ho value old
  have later : left.map (·.spelling (part.set value old) new) = left.map (·.spelling old new) := by
    apply List.map_congr_left
    intro other ho
    rw [RecordPart.spelling, RecordPart.spelling, around (List.mem_append_right done ho)]
  have earlier : (∀ other ∈ done, other.get new = other.get (part.set value old))
      ↔ ∀ other ∈ done, other.get new = other.get old := by
    refine forall₂_congr fun other ho => ?_
    rw [around (List.mem_append_left left ho)]
  rw [later, List.forall_mem_append, earlier, List.forall_mem_singleton, part.get_set, and_assoc]

/-- The fields that are still to come are read from a list if its items spell them, and the others
stay as they are; by induction on the parts that are still to come.
-/
theorem Reader.Record.MadeOf.takes_positional_iff (made : record.MadeOf parts) {budget : Nat}
    (reads : ∀ part ∈ parts, Agrees (part.reader budget) part.Spells)
    {done left : List (RecordPart α)} (split : done ++ left = parts) {first : Bool}
    {s rest : List Char} {items : List Json} (h : BeginsItems first s items rest) (old new : α)
    (after : List Char)
    : Takes (positional record budget old first s (left.map RecordPart.field)) new after
      ↔ ((∀ part ∈ done, part.get new = part.get old)
          ∧ SpelledInList (left.map (·.spelling old new)) items)
        ∧ after = rest := by
  induction left generalizing done first s items old with
  | nil =>
      obtain rfl : done = parts := by simpa using split
      rw [List.map_nil, Reader.positional, takes_map_iff]
      cases items with
      | nil => simp [h.takes_endOfList_nil.iff, spelledInList_nil_iff, made.eq_iff]
      | cons item items => simp [h.not_takes_endOfList_cons, SpelledInList]
  | cons part left ih =>
      have hp : part ∈ parts := by simp [← split]
      have later : (done ++ [part]) ++ left = parts := by simp [split]
      rw [List.map_cons, Reader.positional]
      cases items with
      | nil =>
          obtain ⟨shorter, reached⟩ := h.beforeElement_nil
          have optional
              : (part.field :: left.map RecordPart.field).findIdx? (·.required) = none := by
            rw [List.findIdx?_eq_none_iff]
            intro field hf
            apply made.required_eq_false
            rw [made.fields_eq, ← split, List.map_append]
            exact List.mem_append_right _ hf
          rw [reached, optional, takes_ok_bind_iff, takes_pure, made.eq_iff, ← split,
            List.forall_mem_append, spelledInList_nil_iff, eq_comm (a := after)]
          simp [RecordPart.spelling]
      | cons item items =>
          obtain ⟨start, shorter, between, reached, head, tail⟩ := h.beforeElement_cons
          rw [reached]
          change Takes (part.field.read budget start >>= fun change =>
            Reader.positional record budget (change.value old) false change.rest
              (left.map RecordPart.field) >>= _) new after ↔ _
          refine (takes_bind_iff_exists (part.agrees_field (reads part hp) head) fun change _ =>
            takes_within_iff.trans (ih later tail (change old))).trans ?_
          constructor
          · rintro ⟨_, ⟨value, rfl, spelled⟩, others, rfl⟩
            rw [made.spelledInList_set_iff split] at others
            obtain ⟨kept, rfl, others⟩ := others
            exact ⟨⟨kept, spelled, others⟩, rfl⟩
          · rintro ⟨⟨kept, spelled, others⟩, rfl⟩
            refine ⟨_, ⟨_, rfl, spelled⟩, ?_, rfl⟩
            rw [made.spelledInList_set_iff split]
            exact ⟨kept, rfl, others⟩

-----------------------------------------------------------------------------------------
-- Objects
-----------------------------------------------------------------------------------------

theorem Reader.Record.MadeOf.spelledInObject_nil_iff (made : record.MadeOf parts)
    (seen : List String) {old new : α}
    : SpelledInObject (parts.map (·.spellingAfter seen old new)) [] ↔ old = new := by
  simp [SpelledInObject, FieldSpelling.SpelledByAll, RecordPart.spellingAfter, made.eq_iff]

/-- The member of an unknown key makes no difference. -/
theorem spelledInObject_unknown_iff {fields : List FieldSpelling} {name : String}
    (unknown : ∀ field ∈ fields, name ≠ field.name) (json : Json) (members : List (String × Json))
    : SpelledInObject fields ((name, json) :: members) ↔ SpelledInObject fields members := by
  refine forall₂_congr fun field hf => ?_
  rw [valuesOf_cons_other (unknown field hf)]

/-- A part that was set a moment ago may not be spelled any more. -/
theorem RecordPart.spelledByAll_after_iff {part : RecordPart α} {seen : List String}
    {value : part.Value} {old new : α} {values : List Json}
    : (part.spellingAfter (part.name :: seen) (part.set value old) new).SpelledByAll values
      ↔ part.get new = value ∧ values = [] := by
  cases values with
  | nil => simp [FieldSpelling.SpelledByAll, spellingAfter, part.get_set]
  | cons json others => simp [FieldSpelling.spelledByAll_cons_iff, spellingAfter]

/-- For the other parts it makes no difference that a part was set. -/
theorem Reader.Record.MadeOf.spellingAfter_other (made : record.MadeOf parts)
    {part other : RecordPart α} (hp : part ∈ parts) (ho : other ∈ parts)
    (different : other.name ≠ part.name) (seen : List String) (value : part.Value) (old new : α)
    : other.spellingAfter (part.name :: seen) (part.set value old) new
      = other.spellingAfter seen old new := by
  simp [RecordPart.spellingAfter, different, made.get_set_other part hp other ho different]

/-- The member of a part sets the part, and the members after it spell the others. -/
theorem Reader.Record.MadeOf.spelledInObject_cons_iff (made : record.MadeOf parts)
    {part : RecordPart α} (hp : part ∈ parts) {seen : List String} (fresh : part.name ∉ seen)
    (old new : α) (json : Json) (members : List (String × Json))
    : SpelledInObject (parts.map (·.spellingAfter seen old new)) ((part.name, json) :: members)
      ↔ ∃ value,
          part.Spells value json
          ∧ SpelledInObject
              (parts.map (·.spellingAfter (part.name :: seen) (part.set value old) new))
              members := by
  simp only [SpelledInObject, List.forall_mem_map, RecordPart.spellingAfter_name]
  constructor
  · intro spelled
    have own := spelled part hp
    rw [valuesOf_cons_same, FieldSpelling.spelledByAll_cons_iff] at own
    refine ⟨part.get new, own.1.2, fun other ho => ?_⟩
    by_cases same : other.name = part.name
    · obtain rfl := made.eq_of_name_eq hp ho same
      exact RecordPart.spelledByAll_after_iff.mpr ⟨rfl, own.2⟩
    · rw [made.spellingAfter_other hp ho same]
      have others := spelled other ho
      rwa [valuesOf_cons_other (Ne.symm same)] at others
  · rintro ⟨value, own, spelled⟩ other ho
    by_cases same : other.name = part.name
    · obtain rfl := made.eq_of_name_eq hp ho same
      obtain ⟨rfl, none⟩ := RecordPart.spelledByAll_after_iff.mp (spelled other hp)
      rw [valuesOf_cons_same, FieldSpelling.spelledByAll_cons_iff]
      exact ⟨⟨fresh, own⟩, none⟩
    · have others := spelled other ho
      rw [made.spellingAfter_other hp ho same] at others
      rwa [valuesOf_cons_other (Ne.symm same)]

/-- A part that was seen may not be spelled again. -/
theorem not_spelledInObject_again {part : RecordPart α} (hp : part ∈ parts) {seen : List String}
    (again : part.name ∈ seen) (old new : α) (json : Json) (members : List (String × Json))
    : ¬ SpelledInObject (parts.map (·.spellingAfter seen old new))
        ((part.name, json) :: members) := by
  simp only [SpelledInObject, List.forall_mem_map, RecordPart.spellingAfter_name]
  intro spelled
  have own := spelled part hp
  rw [valuesOf_cons_same, FieldSpelling.spelledByAll_cons_iff] at own
  exact own.1.1 again

/-- The fields that are still to come are read from an object if its members spell them, whatever
the other members are; by induction on the members.
-/
theorem Reader.Record.MadeOf.takes_named_iff (made : record.MadeOf parts) {budget : Nat}
    (reads : ∀ part ∈ parts, Agrees (part.reader budget) part.Spells) {first : Bool}
    {s rest : List Char} {members : List (String × Json)} (h : BeginsMembers first s members rest)
    (seen : List String) (old new : α) (after : List Char)
    : Takes (named record budget old seen first s) new after
      ↔ SpelledInObject (parts.map (·.spellingAfter seen old new)) members ∧ after = rest := by
  induction members generalizing first s seen old with
  | nil =>
      obtain ⟨shorter, reached⟩ := h.beforeKey_nil
      have optional : record.fields.find? (fun field => field.required && !seen.contains field.name)
          = none := by
        rw [List.find?_eq_none]
        intro field hf
        simp [made.required_eq_false hf]
      rw [Reader.named, reached, optional, takes_ok_bind_iff, takes_pure,
        made.spelledInObject_nil_iff, eq_comm (a := after)]
  | cons member members ih =>
      obtain ⟨name, json⟩ := member
      obtain
        ⟨quoted, shorter, key, start, bound, between, reached, named, rfl, colon, head, tail⟩ :=
        h.beforeKey_cons
      rw [Reader.named, reached]
      -- The key is looked up before the value after it is read.
      change Takes (readQuoted quoted >>= _) new after ↔ _
      rw [named, takes_ok_bind_iff]
      dsimp only
      rw [made.find?_eq]
      cases found : parts.find? (·.name == String.ofList key.value) with
      | none =>
          -- No part has the key, and its value is passed over whatever it is.
          change Takes (readColon key.rest >>= _) new after ↔ _
          rw [colon]
          change Takes (skipValue start >>= _) new after ↔ _
          obtain ⟨bound, passed⟩ := head.skipValue
          rw [passed]
          change Takes (Reader.named record budget old seen false between >>= _) new after ↔ _
          rw [takes_within_iff, ih tail, spelledInObject_unknown_iff]
          simp only [List.forall_mem_map, RecordPart.spellingAfter_name]
          intro part hp same
          exact List.find?_eq_none.mp found part hp (beq_iff_eq.mpr same.symm)
      | some part =>
          have hp : part ∈ parts := List.mem_of_find?_eq_some found
          have name_eq : part.name = String.ofList key.value := by simpa using List.find?_some found
          rw [← name_eq]
          change Takes (if seen.contains part.name then _ else _) new after ↔ _
          split
          · next again =>
              simp [not_spelledInObject_again hp (by simpa using again)]
          · next fresh =>
              rw [made.spelledInObject_cons_iff hp (by simpa using fresh), colon]
              change Takes (part.field.read budget start >>= fun change =>
                Reader.named record budget (change.value old) (part.name :: seen) false
                  change.rest >>= _) new after ↔ _
              refine (takes_bind_iff_exists (part.agrees_field (reads part hp) head) fun change _ =>
                takes_within_iff.trans (ih tail (part.name :: seen) (change old))).trans ?_
              aesop

/-- A record takes one bracket more than its fields. -/
theorem Reader.Record.MadeOf.reads (made : record.MadeOf parts) {depth : Nat}
    (reads : ∀ part ∈ parts, part.reader.Reads depth part.Spells)
    : (Reader.record record).Reads (depth + 1) fun new json =>
        SpelledAsRecord (parts.map (·.spelling record.start new)) json := by
  intro budget enough s rest json h new after
  obtain ⟨inner, rfl⟩ := Nat.exists_eq_add_of_le' (Nat.le_of_add_left_le enough)
  have agrees (part : RecordPart α) (hp : part ∈ parts) : Agrees (part.reader inner) part.Spells :=
    reads part hp inner (Nat.le_of_succ_le_succ enough)
  obtain ⟨c, tail, start, kind⟩ := h.exists_kind
  unfold Reader.record
  split
  · next none => cases none.symm.trans start
  · next found =>
      obtain ⟨rfl, rfl⟩ := List.cons.inj (found.symm.trans start)
      split
      · next bracket =>
          obtain ⟨items, rfl⟩ := kind.list_iff.mp bracket
          cases h with
          | list start' inside =>
              obtain rfl := List.tail_eq_of_cons_eq (start'.symm.trans start)
              change Takes (do
                let read ← (Reader.positional record inner record.start true _
                  record.fields).mapError _
                pure (read.within _)) new after ↔ _
              rw [takes_within_iff, takes_mapError_iff, made.fields_eq,
                made.takes_positional_iff agrees (List.nil_append parts) inside]
              simp [SpelledAsRecord]
      · next noList =>
          split
          · next brace =>
              obtain ⟨members, rfl⟩ := kind.object_iff.mp brace
              cases h with
              | object start' inside =>
                  obtain rfl := List.tail_eq_of_cons_eq (start'.symm.trans start)
                  change Takes (do
                    let read ← (Reader.named record inner record.start [] true _).mapError _
                    pure (read.within _)) new after ↔ _
                  rw [takes_within_iff, takes_mapError_iff, made.takes_named_iff agrees inside]
                  simp [SpelledAsRecord]
          · next noObject =>
              have different
                  : ¬ SpelledAsRecord (parts.map (·.spelling record.start new)) json := by
                cases json with
                | list items => exact absurd (kind.list_iff.mpr ⟨items, rfl⟩) noList
                | object members => exact absurd (kind.object_iff.mpr ⟨members, rfl⟩) noObject
                | null | bool _ | number _ | text _ => exact id
              simp [different]

end

end ClassDiagram.Json
