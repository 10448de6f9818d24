import ClassDiagram.Proofs.Json.ValueTexts
import Mathlib.Data.List.Forall2

/-! Readers of typed values against JSON values. A reader agrees with a spelling if, on every text
of a JSON value, it takes exactly the values that are spelled by it and passes over the whole text.
What a reader is made of decides what it agrees with.
-/

namespace ClassDiagram.Json

variable {α β : Type}

-----------------------------------------------------------------------------------------
-- Spellings
-----------------------------------------------------------------------------------------

def SpellsText (value : String) (json : Json) : Prop :=
  json = .text value

/-- Nothing is spelled as `null`. -/
def SpellsOption (Spells : α → Json → Prop) : Option α → Json → Prop
  | none, json => json = .null
  | some value, json => Spells value json

def SpellsList (Spells : α → Json → Prop) (values : List α) (json : Json) : Prop :=
  ∃ items, json = .list items ∧ List.Forall₂ Spells values items

/-- On texts of JSON values, what is taken is what is spelled, and all of the text. -/
def Agrees (reading : (s : List Char) → Except Fault (Read α s)) (Spells : α → Json → Prop)
    : Prop :=
  ∀ {s rest json},
    Begins s json rest
    → ∀ value after, Takes (reading s) value after ↔ Spells value json ∧ after = rest

/-- The reader agrees with the spelling if it may open as many brackets as the depth says. -/
def Reader.Reads (reader : Reader α) (depth : Nat) (Spells : α → Json → Prop) : Prop :=
  ∀ budget, depth ≤ budget → Agrees (reader budget) Spells

-----------------------------------------------------------------------------------------
-- First characters
-----------------------------------------------------------------------------------------

/-- The first character tells strings, brackets and `null` from all else. -/
structure IsKindOf (c : Char) (json : Json) : Prop where
  text_iff : c = '"' ↔ ∃ value, json = .text value
  list_iff : c = '[' ↔ ∃ items, json = .list items
  object_iff : c = '\x7b' ↔ ∃ members, json = .object members
  null_iff : c = 'n' ↔ json = .null

theorem IsFirst.isKindOf {c : Char} {json : Json} (first : IsFirst c json) : IsKindOf c json := by
  cases json with
  | bool value => cases value <;> obtain rfl := first <;> constructor <;> simp
  | number _ =>
      have other {letter : Char} (hl : startsNumber letter = false) : c ≠ letter := by
        rintro rfl
        cases hl.symm.trans first
      have quote : c ≠ '"' := other (by decide)
      have bracket : c ≠ '[' := other (by decide)
      have brace : c ≠ '\x7b' := other (by decide)
      have letter : c ≠ 'n' := other (by decide)
      constructor <;> simp [quote, bracket, brace, letter]
  | null | text _ | list _ | object _ => obtain rfl := first; constructor <;> simp

theorem Begins.exists_kind {s rest : List Char} {json : Json} (h : Begins s json rest)
    : ∃ c tail, skipSpace s = c :: tail ∧ IsKindOf c json := by
  obtain ⟨c, tail, start, first⟩ := h.exists_first
  exact ⟨c, tail, start, first.isKindOf⟩

-----------------------------------------------------------------------------------------
-- Strings and optional values
-----------------------------------------------------------------------------------------

section
variable {s t after : List Char} {reading : Except Fault (Read α s)}

theorem takes_within_iff {value : α} {bound : Read α s → s.length ≤ t.length}
    : Takes (do let read ← reading; pure (read.within (bound read))) value after
      ↔ Takes reading value after := by
  rw [takes_bind_iff, takes_iff]
  simp only [takes_pure, Read.within]

theorem takes_map_within_iff {f : α → β} {value : β} {bound : Read α s → s.length ≤ t.length}
    : Takes (do let read ← reading; pure ((read.map f).within (bound read))) value after
      ↔ ∃ x, f x = value ∧ Takes reading x after := by
  cases reading with
  | error fault => simp [bind, Except.bind]
  | ok read => simp [bind, Except.bind, Read.map, Read.within]

/-- A reading that takes something takes nothing else. -/
theorem Takes.iff {value x : α} {rest : List Char} (taken : Takes reading value rest)
    : Takes reading x after ↔ x = value ∧ after = rest := by
  constructor
  · exact taken.unique
  · rintro ⟨rfl, rfl⟩
    exact taken

/-- Where it is known what is taken by a step, and after each of its values by the steps that
follow, it is known what is taken by all of them.
-/
theorem takes_bind_iff_exists {next : Read α s → Except Fault (Read β t)}
    {First Then : α → Prop} {value : β} {rest : List Char}
    (first : ∀ x left, Takes reading x left ↔ First x ∧ left = rest)
    (later : ∀ x shorter, Takes (next ⟨x, rest, shorter⟩) value after ↔ Then x)
    : Takes (reading >>= next) value after ↔ ∃ x, First x ∧ Then x := by
  rw [takes_bind_iff]
  constructor
  · rintro ⟨⟨x, left, shorter⟩, read, taken⟩
    obtain ⟨known, rfl⟩ := (first x left).mp ⟨shorter, read⟩
    exact ⟨x, known, (later x shorter).mp taken⟩
  · rintro ⟨x, known, taken⟩
    obtain ⟨shorter, read⟩ := (first x rest).mpr ⟨known, rfl⟩
    exact ⟨_, read, (later x shorter).mpr taken⟩

end

theorem reads_text : Reader.Reads Reader.text 0 SpellsText := by
  intro budget _ s rest json h value after
  obtain ⟨c, tail, start, kind⟩ := h.exists_kind
  unfold Reader.text
  split
  · next quoted hq =>
      obtain ⟨text, rfl⟩ := kind.text_iff.mp (List.head_eq_of_cons_eq (start.symm.trans hq))
      cases h with
      | text start' taken =>
          obtain rfl := List.tail_eq_of_cons_eq (start'.symm.trans hq)
          rw [takes_map_within_iff]
          simp only [taken.iff, SpellsText, Json.text.injEq]
          aesop
  · next other =>
      have different : ¬ SpellsText value json := by
        rintro rfl
        rw [kind.text_iff.mpr ⟨value, rfl⟩] at start
        exact other _ start
      simp [different]

/-- What is spelled otherwise than as `null` may also be absent. -/
theorem Reader.Reads.nullable {reader : Reader α} {depth : Nat} {Spells : α → Json → Prop}
    (reads : reader.Reads depth Spells) (notNull : ∀ value, ¬ Spells value .null)
    : (Reader.nullable reader).Reads depth (SpellsOption Spells) := by
  intro budget enough s rest json h value after
  obtain ⟨c, tail, start, kind⟩ := h.exists_kind
  unfold Reader.nullable
  split
  · next word hw =>
      obtain rfl := kind.null_iff.mp (List.head_eq_of_cons_eq (start.symm.trans hw))
      cases h with
      | null start' =>
          obtain rfl := List.tail_eq_of_cons_eq (start'.symm.trans hw)
          have word : Leaves (readWord ['u', 'l', 'l'] ('u' :: 'l' :: 'l' :: rest)) rest :=
            readWord_append ['u', 'l', 'l'] rest
          obtain ⟨bound, passed⟩ := word
          rw [passed]
          change Takes (.ok _) value after ↔ _
          rw [takes_ok]
          cases value with
          | none => simp [SpellsOption, eq_comm]
          | some value => simp [SpellsOption, notNull]
  · next other =>
      have different : json ≠ .null := by
        rintro rfl
        rw [kind.null_iff.mpr rfl] at start
        exact other _ start
      rw [takes_map_iff]
      cases value with
      | none => simp [SpellsOption, different]
      | some value => simp [SpellsOption, reads budget enough h value after]

-----------------------------------------------------------------------------------------
-- Lists
-----------------------------------------------------------------------------------------

/-- Elements are taken one by one, each from the text of one item; by induction on the items. -/
theorem Agrees.readElements {reading : (s : List Char) → Except Fault (Read α s)}
    {Spells : α → Json → Prop} (agrees : Agrees reading Spells) {first : Bool}
    {s rest : List Char} {items : List Json} (h : BeginsItems first s items rest)
    (values : List α) (after : List Char)
    : Takes (readElements reading first s) values after
      ↔ List.Forall₂ Spells values items ∧ after = rest := by
  induction items generalizing first s values after with
  | nil =>
      obtain ⟨shorter, reached⟩ := h.beforeElement_nil
      rw [Json.readElements, reached]
      change Takes (.ok _) values after ↔ _
      rw [takes_ok]
      simp [eq_comm]
  | cons item items ih =>
      obtain ⟨start, shorter, between, reached, head, tail⟩ := h.beforeElement_cons
      rw [Json.readElements, reached]
      refine (takes_bind_iff_exists (agrees head) fun value _ =>
        takes_bind_iff_exists (ih tail) fun others _ => by
          simp only [takes_pure]
          exact Iff.rfl).trans ?_
      simp only [List.forall₂_cons_right_iff]
      aesop

/-- A list takes one bracket more than its elements. -/
theorem Reader.Reads.list {reader : Reader α} {depth : Nat} {Spells : α → Json → Prop}
    (reads : reader.Reads depth Spells)
    : (Reader.list reader).Reads (depth + 1) (SpellsList Spells) := by
  intro budget enough s rest json h values after
  obtain ⟨inner, rfl⟩ := Nat.exists_eq_add_of_le' (Nat.le_of_add_left_le enough)
  obtain ⟨c, tail, start, kind⟩ := h.exists_kind
  unfold Reader.list
  split
  · next elements he =>
      obtain ⟨items, rfl⟩ := kind.list_iff.mp (List.head_eq_of_cons_eq (start.symm.trans he))
      cases h with
      | list start' inside =>
          obtain rfl := List.tail_eq_of_cons_eq (start'.symm.trans he)
          have agrees : Agrees (reader inner) Spells := reads inner (Nat.le_of_succ_le_succ enough)
          rw [takes_within_iff, takes_mapError_iff, agrees.readElements inside]
          simp [SpellsList]
  · next other =>
      have different : ¬ SpellsList Spells values json := by
        rintro ⟨items, rfl, -⟩
        rw [kind.list_iff.mpr ⟨items, rfl⟩] at start
        exact other _ start
      simp [different]

-----------------------------------------------------------------------------------------
-- Values of any kind
-----------------------------------------------------------------------------------------

/-- Members are taken one by one, each from the text of one member; by induction on them. -/
theorem Agrees.readMembers {reading : (s : List Char) → Except Fault (Read α s)}
    {Spells : α → Json → Prop} (agrees : Agrees reading Spells) {first : Bool}
    {s rest : List Char} {members : List (String × Json)}
    (h : BeginsMembers first s members rest) (values : List (String × α)) (after : List Char)
    : Takes (readMembers reading first s) values after
      ↔ List.Forall₂ (fun value member => value.1 = member.1 ∧ Spells value.2 member.2)
            values members
        ∧ after = rest := by
  induction members generalizing first s values after with
  | nil =>
      obtain ⟨shorter, reached⟩ := h.beforeKey_nil
      rw [Json.readMembers, reached]
      change Takes (.ok _) values after ↔ _
      rw [takes_ok]
      simp [eq_comm]
  | cons member members ih =>
      obtain ⟨name, json⟩ := member
      obtain
        ⟨quoted, shorter, key, start, bound, between, reached, named, rfl, colon, head, tail⟩ :=
        h.beforeKey_cons
      rw [Json.readMembers, reached]
      change Takes (readQuoted quoted >>= fun key => readColon key.rest >>= _) values after ↔ _
      rw [named]
      change Takes (readColon key.rest >>= _) values after ↔ _
      rw [colon]
      refine (takes_bind_iff_exists (agrees head) fun value _ =>
        takes_bind_iff_exists (ih tail) fun others _ => by
          simp only [takes_pure]
          exact Iff.rfl).trans ?_
      simp only [List.forall₂_cons_right_iff]
      aesop

/-- All brackets can be opened one after another and all numbers have a value. -/
def Readable : Nat → Json → Prop
  | _, .null | _, .bool _ | _, .text _ => True
  | _, .number numeral => ∃ value, numeral.value = .ok value
  | 0, .list _ | 0, .object _ => False
  | inner + 1, .list items => ∀ item ∈ items, Readable inner item
  | inner + 1, .object members => ∀ member ∈ members, Readable inner member.2

/-- The value of a scalar is read if it has one. -/
def ScalarAgrees (s : List Char) (json : Json) (rest : List Char) : Prop :=
  ∀ budget value after,
    (∃ scalar, scalar.toJson = value ∧ Takes (readScalar (skipSpace s)) scalar after)
    ↔ (Readable budget value ∧ value = json) ∧ after = rest

theorem scalarAgrees_of_takes {s rest : List Char} {scalar : Scalar}
    (taken : Takes (readScalar (skipSpace s)) scalar rest)
    (readable : ∀ budget, Readable budget scalar.toJson)
    : ScalarAgrees s scalar.toJson rest := by
  intro budget value after
  simp only [taken.iff]
  constructor
  · rintro ⟨_, rfl, rfl, rfl⟩
    exact ⟨⟨readable budget, rfl⟩, rfl⟩
  · rintro ⟨⟨-, rfl⟩, rfl⟩
    exact ⟨scalar, rfl, rfl, rfl⟩

theorem takes_readScalar_word {c : Char} {s rest : List Char} {passing : Except Fault (Rest s)}
    {scalar : Scalar} (step : readScalar (c :: s) = passing.map (Read.afterFirst c scalar))
    (passed : Leaves passing rest)
    : Takes (readScalar (c :: s)) scalar rest := by
  obtain ⟨bound, rfl⟩ := passed
  rw [step]
  exact ⟨_, rfl⟩

theorem takes_readScalar_text {quoted chars rest : List Char}
    (taken : Takes (readQuoted quoted) chars rest)
    : Takes (readScalar ('"' :: quoted)) (.text (String.ofList chars)) rest := by
  obtain ⟨shorter, taken⟩ := taken
  have step : readScalar ('"' :: quoted)
      = (readQuoted quoted).map fun read =>
        (read.map fun value => Scalar.text (String.ofList value)).within (Nat.le_succ _) := rfl
  rw [step, taken]
  exact ⟨_, rfl⟩

theorem takes_readScalar_number_iff {c : Char} {digits rest after : List Char} {numeral : Numeral}
    {scalar : Scalar} (first : startsNumber c = true)
    (taken : Takes (readNumeral .endInValue (c :: digits)) numeral rest)
    : Takes (readScalar (c :: digits)) scalar after
      ↔ (∃ value, numeral.value = .ok value ∧ scalar = .number numeral value) ∧ after = rest := by
  have other {letter : Char} (hl : startsNumber letter = false) : c ≠ letter := by
    rintro rfl
    cases hl.symm.trans first
  have step : readScalar (c :: digits) = readNumber (c :: digits) := by
    unfold readScalar
    dsimp only
    rw [if_neg (other (by decide)), if_neg (other (by decide)), if_neg (other (by decide)),
      if_neg (other (by decide)), if_pos first]
  obtain ⟨shorter, taken⟩ := taken
  rw [step, readNumber, taken, takes_ok_bind_iff]
  cases hv : numeral.value with
  | error unread => simp
  | ok value => simp [Read.map, eq_comm]

theorem Begins.scalarAgrees {s rest : List Char} {json : Json} (h : Begins s json rest)
    (list : ∀ items, json ≠ .list items) (object : ∀ members, json ≠ .object members)
    : ScalarAgrees s json rest := by
  cases h with
  | null start =>
      have taken : Takes (readScalar (skipSpace s)) .null rest := by
        rw [start]
        exact takes_readScalar_word rfl (readWord_append ['u', 'l', 'l'] rest)
      exact scalarAgrees_of_takes taken fun _ => by simp [Scalar.toJson, Readable]
  | true start =>
      have taken : Takes (readScalar (skipSpace s)) (.bool Bool.true) rest := by
        rw [start]
        exact takes_readScalar_word rfl (readWord_append ['r', 'u', 'e'] rest)
      exact scalarAgrees_of_takes taken fun _ => by simp [Scalar.toJson, Readable]
  | false start =>
      have taken : Takes (readScalar (skipSpace s)) (.bool Bool.false) rest := by
        rw [start]
        exact takes_readScalar_word rfl (readWord_append ['a', 'l', 's', 'e'] rest)
      exact scalarAgrees_of_takes taken fun _ => by simp [Scalar.toJson, Readable]
  | @number _ digits _ c numeral start first taken =>
      intro budget value after
      rw [start]
      simp only [takes_readScalar_number_iff first taken]
      constructor
      · rintro ⟨_, rfl, ⟨number, valued, rfl⟩, rfl⟩
        exact ⟨⟨by simp [Scalar.toJson, Readable, valued], rfl⟩, rfl⟩
      · rintro ⟨⟨readable, rfl⟩, rfl⟩
        obtain ⟨number, valued⟩ : ∃ number, numeral.value = .ok number := by
          simpa only [Readable] using readable
        exact ⟨.number numeral number, rfl, ⟨number, valued, rfl⟩, rfl⟩
  | @text _ _ chars _ start taken =>
      have taken : Takes (readScalar (skipSpace s)) (.text (String.ofList chars)) rest := by
        rw [start]
        exact takes_readScalar_text taken
      exact scalarAgrees_of_takes taken fun _ => by simp [Scalar.toJson, Readable]
  | list => exact absurd rfl (list _)
  | object => exact absurd rfl (object _)

/-- Lists of readable values that are spelled by themselves. -/
theorem forall₂_readable_iff {budget : Nat} {values items : List Json}
    : List.Forall₂ (fun value json => Readable budget value ∧ value = json) values items
      ↔ (∀ item ∈ values, Readable budget item) ∧ values = items := by
  rw [List.forall₂_and_left, List.forall₂_eq_eq_eq]

theorem forall₂_readable_members_iff {budget : Nat} {values members : List (String × Json)}
    : List.Forall₂
          (fun value member =>
            value.1 = member.1 ∧ Readable budget value.2 ∧ value.2 = member.2)
          values members
      ↔ (∀ member ∈ values, Readable budget member.2) ∧ values = members := by
  have same : (fun value member : String × Json =>
        value.1 = member.1 ∧ Readable budget value.2 ∧ value.2 = member.2)
      = fun value member => Readable budget value.2 ∧ value = member := by
    funext value member
    simp only [Prod.ext_iff, eq_iff_iff]
    tauto
  rw [same, List.forall₂_and_left, List.forall₂_eq_eq_eq]

/-- Reading a value of any kind gives the value that the text is of, by induction on the brackets
that may be opened.
-/
theorem agrees_readAny (budget : Nat)
    : Agrees (readAny budget) fun value json => Readable budget value ∧ value = json := by
  induction budget with
  | zero =>
      intro s rest json h value after
      obtain ⟨c, tail, start, kind⟩ := h.exists_kind
      unfold readAny
      split
      · next hi =>
          obtain ⟨items, rfl⟩ := kind.list_iff.mp (List.head_eq_of_cons_eq (start.symm.trans hi))
          simp only [not_takes_error, false_iff]
          rintro ⟨⟨readable, rfl⟩, -⟩
          simp [Readable] at readable
      · next hm =>
          obtain ⟨members, rfl⟩ :=
            kind.object_iff.mp (List.head_eq_of_cons_eq (start.symm.trans hm))
          simp only [not_takes_error, false_iff]
          rintro ⟨⟨readable, rfl⟩, -⟩
          simp [Readable] at readable
      · next list object =>
          rw [takes_map_within_iff]
          refine h.scalarAgrees ?_ ?_ 0 value after
          · rintro items rfl
            exact list tail (by rw [start, kind.list_iff.mpr ⟨items, rfl⟩])
          · rintro members rfl
            exact object tail (by rw [start, kind.object_iff.mpr ⟨members, rfl⟩])
  | succ inner ih =>
      intro s rest json h value after
      obtain ⟨c, tail, start, kind⟩ := h.exists_kind
      unfold readAny
      split
      · next hi =>
          obtain ⟨items, rfl⟩ := kind.list_iff.mp (List.head_eq_of_cons_eq (start.symm.trans hi))
          cases h with
          | list start' inside =>
              obtain rfl := List.tail_eq_of_cons_eq (start'.symm.trans hi)
              rw [takes_map_within_iff]
              simp only [ih.readElements inside, forall₂_readable_iff]
              constructor
              · rintro ⟨_, rfl, ⟨readable, rfl⟩, rfl⟩
                exact ⟨⟨by simpa [Readable] using readable, rfl⟩, rfl⟩
              · rintro ⟨⟨readable, rfl⟩, rfl⟩
                exact ⟨items, rfl, ⟨by simpa [Readable] using readable, rfl⟩, rfl⟩
      · next hm =>
          obtain ⟨members, rfl⟩ :=
            kind.object_iff.mp (List.head_eq_of_cons_eq (start.symm.trans hm))
          cases h with
          | object start' inside =>
              obtain rfl := List.tail_eq_of_cons_eq (start'.symm.trans hm)
              rw [takes_map_within_iff]
              simp only [ih.readMembers inside, forall₂_readable_members_iff]
              constructor
              · rintro ⟨_, rfl, ⟨readable, rfl⟩, rfl⟩
                exact ⟨⟨by simpa [Readable] using readable, rfl⟩, rfl⟩
              · rintro ⟨⟨readable, rfl⟩, rfl⟩
                exact ⟨members, rfl, ⟨by simpa [Readable] using readable, rfl⟩, rfl⟩
      · next list object =>
          rw [takes_map_within_iff]
          refine h.scalarAgrees ?_ ?_ (inner + 1) value after
          · rintro items rfl
            exact list tail (by rw [start, kind.list_iff.mpr ⟨items, rfl⟩])
          · rintro members rfl
            exact object tail (by rw [start, kind.object_iff.mpr ⟨members, rfl⟩])

-----------------------------------------------------------------------------------------
-- Whole texts
-----------------------------------------------------------------------------------------

theorem Reader.Reads.mono {reader : Reader α} {depth deeper : Nat} {Spells : α → Json → Prop}
    (reads : reader.Reads depth Spells) (h : depth ≤ deeper)
    : reader.Reads deeper Spells :=
  fun budget enough => reads budget (Nat.le_trans h enough)

/-- From a text of a JSON value, exactly what is spelled by the value is read. -/
theorem Reader.Reads.read_eq_ok_iff {reader : Reader α} {depth : Nat} {Spells : α → Json → Prop}
    (reads : reader.Reads depth Spells) (enough : depth ≤ nestingLimit) {text : String}
    {json : Json} (h : IsText text json) (value : α)
    : read reader text = .ok value ↔ Spells value json := by
  obtain ⟨rest, begins, blanks⟩ := h
  rw [read_eq_ok_iff_takes]
  simp only [reads nestingLimit enough begins value]
  constructor
  · rintro ⟨_, ⟨spelled, rfl⟩, -⟩
    exact spelled
  · exact fun spelled => ⟨rest, ⟨spelled, rfl⟩, blanks⟩

end ClassDiagram.Json
