import ClassDiagram.Json.Reader
import Mathlib.Data.List.DropRight

/-! Texts of JSON values. Blanks, commas and brackets are as the standard has them; the characters
of strings and numbers are left to their readers. The steps that all readers share, from one item
to the next, follow any such text.
-/

namespace ClassDiagram.Json

-----------------------------------------------------------------------------------------
-- What is taken from a text
-----------------------------------------------------------------------------------------

section
variable {α β : Type} {s : List Char}

/-- A reading succeeds with the given value, and the given rest is left. -/
def Takes (reading : Except Fault (Read α s)) (value : α) (rest : List Char) : Prop :=
  ∃ shorter, reading = .ok ⟨value, rest, shorter⟩

theorem takes_iff {reading : Except Fault (Read α s)} {value : α} {rest : List Char}
    : Takes reading value rest
      ↔ ∃ read, reading = .ok read ∧ read.value = value ∧ read.rest = rest := by
  constructor
  · rintro ⟨shorter, rfl⟩
    exact ⟨_, rfl, rfl, rfl⟩
  · rintro ⟨⟨value, rest, shorter⟩, rfl, rfl, rfl⟩
    exact ⟨shorter, rfl⟩

theorem Takes.of_eq_ok {reading : Except Fault (Read α s)} {read : Read α s}
    (h : reading = .ok read)
    : Takes reading read.value read.rest :=
  ⟨read.shorter, h⟩

@[simp] theorem takes_ok {read : Read α s} {value : α} {rest : List Char}
    : Takes (.ok read) value rest ↔ read.value = value ∧ read.rest = rest := by
  simp [takes_iff]

@[simp] theorem takes_pure {read : Read α s} {value : α} {rest : List Char}
    : Takes (pure read) value rest ↔ read.value = value ∧ read.rest = rest :=
  takes_ok

@[simp] theorem not_takes_error {fault : Fault} {value : α} {rest : List Char}
    : ¬ Takes (.error fault : Except Fault (Read α s)) value rest := by
  simp [takes_iff]

theorem Takes.unique {reading : Except Fault (Read α s)} {value value' : α}
    {rest rest' : List Char} (first : Takes reading value rest)
    (second : Takes reading value' rest')
    : value' = value ∧ rest' = rest := by
  obtain ⟨_, rfl⟩ := first
  obtain ⟨rfl, rfl⟩ := takes_ok.mp second
  exact ⟨rfl, rfl⟩

/-- A reading that goes on after a step takes what it takes after the step. -/
theorem takes_bind_iff {step : Except Fault β} {next : β → Except Fault (Read α s)} {value : α}
    {rest : List Char}
    : Takes (step >>= next) value rest
      ↔ ∃ result, step = .ok result ∧ Takes (next result) value rest := by
  cases step with
  | error fault => simp [bind, Except.bind]
  | ok read => simp [bind, Except.bind]

theorem takes_ok_bind_iff {result : β} {next : β → Except Fault (Read α s)} {value : α}
    {rest : List Char}
    : Takes (.ok result >>= next) value rest ↔ Takes (next result) value rest :=
  Iff.rfl

theorem takes_map_iff {f : α → β} {reading : Except Fault (Read α s)} {value : β}
    {rest : List Char}
    : Takes (reading.map (Read.map f)) value rest ↔ ∃ x, f x = value ∧ Takes reading x rest := by
  cases reading with
  | error fault => simp [Except.map]
  | ok read => simp [Except.map, Read.map]

@[simp] theorem takes_mapError_iff {g : Fault → Fault} {reading : Except Fault (Read α s)}
    {value : α} {rest : List Char}
    : Takes (reading.mapError g) value rest ↔ Takes reading value rest := by
  cases reading <;> simp [Except.mapError]

/-- From a whole text, what a reader takes is read, if only blanks are left. -/
theorem read_eq_ok_iff_takes {reader : Reader α} {text : String} {value : α}
    : read reader text = .ok value
      ↔ ∃ rest, Takes (reader nestingLimit text.toList) value rest ∧ skipSpace rest = [] := by
  unfold read
  cases taken : reader nestingLimit text.toList with
  | error fault => simp [bind, Except.bind, Except.mapError]
  | ok found =>
      simp only [takes_ok]
      cases blanks : skipSpace found.rest with
      | nil => simp [bind, Except.bind, pure, Except.pure, Except.mapError, blanks]
      | cons c rest =>
          simp [bind, Except.bind, Except.mapError, blanks]

/-- Passing over a part of a text succeeds and leaves the given rest. -/
def Leaves {s : List Char} (passing : Except Fault (Rest s)) (rest : List Char) : Prop :=
  ∃ bound, passing = .ok ⟨rest, bound⟩

/-- The letters of a word are passed over one by one. -/
theorem readWord_append (letters rest : List Char)
    : Leaves (readWord letters (letters ++ rest)) rest := by
  induction letters with
  | nil => exact ⟨_, rfl⟩
  | cons letter letters ih =>
      obtain ⟨bound, passed⟩ := ih
      rw [List.cons_append, readWord, if_pos rfl, passed]
      exact ⟨_, rfl⟩

end

-----------------------------------------------------------------------------------------
-- Texts of values
-----------------------------------------------------------------------------------------

mutual

/-- A text begins with a value, perhaps after blanks, and goes on with the rest. -/
inductive Begins : List Char → Json → List Char → Prop
  | null {s rest : List Char} (start : skipSpace s = 'n' :: 'u' :: 'l' :: 'l' :: rest)
    : Begins s .null rest
  | true {s rest : List Char} (start : skipSpace s = 't' :: 'r' :: 'u' :: 'e' :: rest)
    : Begins s (.bool true) rest
  | false {s rest : List Char} (start : skipSpace s = 'f' :: 'a' :: 'l' :: 's' :: 'e' :: rest)
    : Begins s (.bool false) rest
  | number {s digits rest : List Char} {c : Char} {numeral : Numeral}
    (start : skipSpace s = c :: digits) (first : startsNumber c = true)
    (taken : Takes (readNumeral .endInValue (c :: digits)) numeral rest)
    : Begins s (.number numeral) rest
  | text {s quoted chars rest : List Char} (start : skipSpace s = '"' :: quoted)
    (taken : Takes (readQuoted quoted) chars rest)
    : Begins s (.text (String.ofList chars)) rest
  | list {s inner rest : List Char} {items : List Json} (start : skipSpace s = '[' :: inner)
    (inside : BeginsItems true inner items rest)
    : Begins s (.list items) rest
  | object {s inner rest : List Char} {members : List (String × Json)}
    (start : skipSpace s = '\x7b' :: inner) (inside : BeginsMembers true inner members rest)
    : Begins s (.object members) rest

/-- A text goes on with the items of a list and the bracket that ends it. -/
inductive BeginsItems : Bool → List Char → List Json → List Char → Prop
  | closed {first : Bool} {s rest : List Char} (start : skipSpace s = ']' :: rest)
    : BeginsItems first s [] rest
  | first {s after rest : List Char} {item : Json} {items : List Json}
    (head : Begins s item after) (tail : BeginsItems false after items rest)
    : BeginsItems true s (item :: items) rest
  | later {s t after rest : List Char} {item : Json} {items : List Json}
    (start : skipSpace s = ',' :: t) (head : Begins t item after)
    (tail : BeginsItems false after items rest)
    : BeginsItems false s (item :: items) rest

/-- A text goes on with the members of an object and the bracket that ends it. -/
inductive BeginsMembers : Bool → List Char → List (String × Json) → List Char → Prop
  | closed {first : Bool} {s rest : List Char} (start : skipSpace s = '\x7d' :: rest)
    : BeginsMembers first s [] rest
  | first {s after rest : List Char} {member : String × Json} {members : List (String × Json)}
    (head : BeginsMember s member after) (tail : BeginsMembers false after members rest)
    : BeginsMembers true s (member :: members) rest
  | later {s t after rest : List Char} {member : String × Json} {members : List (String × Json)}
    (start : skipSpace s = ',' :: t) (head : BeginsMember t member after)
    (tail : BeginsMembers false after members rest)
    : BeginsMembers false s (member :: members) rest

/-- A text begins with a key, a colon and a value. -/
inductive BeginsMember : List Char → String × Json → List Char → Prop
  | keyed {s quoted chars t u rest : List Char} {value : Json}
    (start : skipSpace s = '"' :: quoted) (key : Takes (readQuoted quoted) chars t)
    (colon : skipSpace t = ':' :: u) (head : Begins u value rest)
    : BeginsMember s (String.ofList chars, value) rest

end

/-- The text is one of the value, with nothing but blanks around it. -/
def IsText (text : String) (value : Json) : Prop :=
  ∃ rest, Begins text.toList value rest ∧ skipSpace rest = []

-----------------------------------------------------------------------------------------
-- First characters
-----------------------------------------------------------------------------------------

/-- The characters that a value of each kind starts with. -/
def IsFirst (c : Char) : Json → Prop
  | .null => c = 'n'
  | .bool true => c = 't'
  | .bool false => c = 'f'
  | .number _ => startsNumber c = true
  | .text _ => c = '"'
  | .list _ => c = '['
  | .object _ => c = '\x7b'

theorem Begins.exists_first {s rest : List Char} {value : Json} (h : Begins s value rest)
    : ∃ c tail, skipSpace s = c :: tail ∧ IsFirst c value := by
  cases h with
  | null start => exact ⟨_, _, start, rfl⟩
  | true start => exact ⟨_, _, start, rfl⟩
  | false start => exact ⟨_, _, start, rfl⟩
  | number start first _ => exact ⟨_, _, start, first⟩
  | text start _ => exact ⟨_, _, start, rfl⟩
  | list start _ => exact ⟨_, _, start, rfl⟩
  | object start _ => exact ⟨_, _, start, rfl⟩

/-- No value starts with the bracket that ends a list. -/
theorem IsFirst.ne_bracket {c : Char} {value : Json} (first : IsFirst c value) : c ≠ ']' := by
  rintro rfl
  cases value with
  | bool value => cases value <;> simp [IsFirst] at first
  | number _ =>
      have starts : startsNumber ']' = true := first
      exact absurd starts (by decide)
  | null | text _ | list _ | object _ => simp [IsFirst] at first

theorem skipSpace_skipSpace (s : List Char) : skipSpace (skipSpace s) = skipSpace s :=
  List.dropWhile_idempotent isSpace s

/-- Blanks before a value make no difference. -/
theorem Begins.withoutBlanks {s rest : List Char} {value : Json} (h : Begins s value rest)
    : Begins (skipSpace s) value rest := by
  cases h with
  | null start => exact .null (by rwa [skipSpace_skipSpace])
  | true start => exact .true (by rwa [skipSpace_skipSpace])
  | false start => exact .false (by rwa [skipSpace_skipSpace])
  | number start first taken => exact .number (by rwa [skipSpace_skipSpace]) first taken
  | text start taken => exact .text (by rwa [skipSpace_skipSpace]) taken
  | list start inside => exact .list (by rwa [skipSpace_skipSpace]) inside
  | object start inside => exact .object (by rwa [skipSpace_skipSpace]) inside

-----------------------------------------------------------------------------------------
-- From one item to the next
-----------------------------------------------------------------------------------------

theorem beforeElement_closed {first : Bool} {s rest : List Char} (start : skipSpace s = ']' :: rest)
    : ∃ shorter, beforeElement first s = .ok (.closed rest shorter) := by
  unfold beforeElement
  split
  · next h => cases h.symm.trans start
  · next h =>
      obtain ⟨rfl, rfl⟩ := List.cons.inj (h.symm.trans start)
      exact ⟨length_lt_of_skipSpace_eq start, if_pos rfl⟩

theorem beforeElement_first {s tail : List Char} {c : Char} (start : skipSpace s = c :: tail)
    (item : c ≠ ']')
    : ∃ shorter, beforeElement true s = .ok (.item (c :: tail) shorter) := by
  unfold beforeElement
  split
  · next h => cases h.symm.trans start
  · next h =>
      obtain ⟨rfl, rfl⟩ := List.cons.inj (h.symm.trans start)
      exact ⟨length_lt_first (length_lt_of_skipSpace_eq start), if_neg item⟩

theorem beforeElement_later {s t tail : List Char} {c : Char} (comma : skipSpace s = ',' :: t)
    (start : skipSpace t = c :: tail) (item : c ≠ ']')
    : ∃ shorter, beforeElement false s = .ok (.item (c :: tail) shorter) := by
  unfold beforeElement
  split
  · next h => cases h.symm.trans comma
  · next h =>
      obtain ⟨rfl, rfl⟩ := List.cons.inj (h.symm.trans comma)
      rw [if_neg (by decide)]
      dsimp only
      rw [if_pos rfl]
      split
      · next h => cases h.symm.trans start
      · next h =>
          obtain ⟨rfl, rfl⟩ := List.cons.inj (h.symm.trans start)
          refine ⟨?_, if_neg item⟩
          exact Nat.lt_of_le_of_lt (length_le_of_skipSpace_eq start)
            (length_lt_of_skipSpace_eq comma)

theorem BeginsItems.beforeElement_nil {first : Bool} {s rest : List Char}
    (h : BeginsItems first s [] rest)
    : ∃ shorter, beforeElement first s = .ok (.closed rest shorter) := by
  cases h with
  | closed start => exact beforeElement_closed start

/-- The first item and the later ones are reached alike. -/
theorem BeginsItems.beforeElement_cons {first : Bool} {s rest : List Char} {item : Json}
    {items : List Json} (h : BeginsItems first s (item :: items) rest)
    : ∃ start shorter after,
        beforeElement first s = .ok (.item start shorter)
        ∧ Begins start item after
        ∧ BeginsItems false after items rest := by
  cases h with
  | first head tail =>
      obtain ⟨c, t, start, isFirst⟩ := head.exists_first
      obtain ⟨shorter, reached⟩ := beforeElement_first start isFirst.ne_bracket
      exact ⟨_, shorter, _, reached, start ▸ head.withoutBlanks, tail⟩
  | later comma head tail =>
      obtain ⟨c, t, start, isFirst⟩ := head.exists_first
      obtain ⟨shorter, reached⟩ := beforeElement_later comma start isFirst.ne_bracket
      exact ⟨_, shorter, _, reached, start ▸ head.withoutBlanks, tail⟩

theorem beforeKey_closed {first : Bool} {s rest : List Char}
    (start : skipSpace s = '\x7d' :: rest)
    : ∃ shorter, beforeKey first s = .ok (.closed rest shorter) := by
  unfold beforeKey
  split
  · next h => cases h.symm.trans start
  · next h =>
      obtain ⟨rfl, rfl⟩ := List.cons.inj (h.symm.trans start)
      exact ⟨length_lt_of_skipSpace_eq start, if_pos rfl⟩

theorem beforeKey_first {s quoted : List Char} (start : skipSpace s = '"' :: quoted)
    : ∃ shorter, beforeKey true s = .ok (.item quoted shorter) := by
  unfold beforeKey
  split
  · next h => cases h.symm.trans start
  · next h =>
      obtain ⟨rfl, rfl⟩ := List.cons.inj (h.symm.trans start)
      rw [if_neg (by decide), if_pos rfl, if_pos rfl]
      exact ⟨length_lt_of_skipSpace_eq start, rfl⟩

theorem beforeKey_later {s t quoted : List Char} (comma : skipSpace s = ',' :: t)
    (start : skipSpace t = '"' :: quoted)
    : ∃ shorter, beforeKey false s = .ok (.item quoted shorter) := by
  unfold beforeKey
  split
  · next h => cases h.symm.trans comma
  · next h =>
      obtain ⟨rfl, rfl⟩ := List.cons.inj (h.symm.trans comma)
      rw [if_neg (by decide), if_neg (by decide), if_pos rfl]
      split
      · next h => cases h.symm.trans start
      · next h =>
          obtain rfl := List.tail_eq_of_cons_eq (h.symm.trans start)
          refine ⟨?_, rfl⟩
          exact Nat.lt_trans (length_lt_of_skipSpace_eq start) (length_lt_of_skipSpace_eq comma)
      · next h => cases h.symm.trans start
      · next other _ => exact (other _ start).elim

theorem readColon_of_skipSpace_eq {s rest : List Char} (colon : skipSpace s = ':' :: rest)
    : ∃ bound, readColon s = .ok ⟨rest, bound⟩ := by
  unfold readColon
  split
  · next h =>
      obtain rfl := List.tail_eq_of_cons_eq (h.symm.trans colon)
      exact ⟨Nat.le_of_lt (length_lt_of_skipSpace_eq colon), rfl⟩
  · next h => cases h.symm.trans colon
  · next other _ => exact (other _ colon).elim

theorem BeginsMembers.beforeKey_nil {first : Bool} {s rest : List Char}
    (h : BeginsMembers first s [] rest)
    : ∃ shorter, beforeKey first s = .ok (.closed rest shorter) := by
  cases h with
  | closed start => exact beforeKey_closed start

/-- The first member and the later ones are reached alike, and so is the value after its key. -/
theorem BeginsMembers.beforeKey_cons {first : Bool} {s rest : List Char} {name : String}
    {value : Json} {members : List (String × Json)}
    (h : BeginsMembers first s ((name, value) :: members) rest)
    : ∃ quoted shorter key start bound after,
        beforeKey first s = .ok (.item quoted shorter)
        ∧ readQuoted quoted = .ok key
        ∧ String.ofList key.value = name
        ∧ readColon key.rest = .ok ⟨start, bound⟩
        ∧ Begins start value after
        ∧ BeginsMembers false after members rest := by
  cases h with
  | first head tail =>
      obtain ⟨start, ⟨_, key⟩, colon, value⟩ := head
      obtain ⟨shorter, reached⟩ := beforeKey_first start
      obtain ⟨bound, passed⟩ := readColon_of_skipSpace_eq colon
      exact ⟨_, shorter, _, _, bound, _, reached, key, rfl, passed, value, tail⟩
  | later comma head tail =>
      obtain ⟨start, ⟨_, key⟩, colon, value⟩ := head
      obtain ⟨shorter, reached⟩ := beforeKey_later comma start
      obtain ⟨bound, passed⟩ := readColon_of_skipSpace_eq colon
      exact ⟨_, shorter, _, _, bound, _, reached, key, rfl, passed, value, tail⟩

end ClassDiagram.Json
