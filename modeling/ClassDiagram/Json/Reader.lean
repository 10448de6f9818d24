import ClassDiagram.Json.Skip

/-! Readers of typed values. A reader says what kind of value it expects; a value of
another kind is read as far as its own faults go before the mismatch is reported. Brackets
that are read count against a limit of nesting, and a fault without a place gets one at
the bracket around it.
-/

namespace ClassDiagram.Json

/-- A reader is given the number of brackets that may still be opened, and a text. -/
abbrev Reader (α : Type) :=
  Nat → (s : List Char) → Except Fault (Read α s)

/-- The fault of a value that is not of the expected kind, or that is faulty itself. -/
def mismatch (expected : Expected) (s : List Char) : Fault :=
  match s with
  | '[' :: _ => .here (.wrongType .list expected) s
  | '\x7b' :: _ => .here (.wrongType .object expected) s
  | s =>
    match readScalar s with
    | .ok read => .here (.wrongType (.scalar read.value) expected) read.rest
    | .error fault => fault

/-! ## Lists -/

/-- Passes over what comes before an element of a list, or over the end of the list. -/
def beforeElement (first : Bool) (s : List Char) : Except Fault (Next first s) :=
  match h : skipSpace s with
  | [] => .error (.here .endInList [])
  | c :: rest =>
    have bound := length_lt_of_skipSpace_eq h
    if c = ']' then
      .ok (.closed rest bound)
    else
      match first with
      | true => .ok (.item (c :: rest) (length_lt_first bound))
      | false =>
        if c = ',' then
          match h : skipSpace rest with
          | [] => .error (.here .endInValue [])
          | c :: rest' =>
            if c = ']' then
              .error (.next .trailingComma (c :: rest'))
            else
              .ok (.item (c :: rest') (Nat.lt_of_le_of_lt (length_le_of_skipSpace_eq h) bound))
        else
          .error (.next .expectedListEnd (c :: rest))

/-- What is left after trying to end a list. -/
def closeList (s : List Char) : List Char :=
  match skipSpace s with
  | ']' :: rest => rest
  | ',' :: rest => skipSpace rest
  | rest => rest

/-- Reads elements and the bracket that ends their list. -/
def readElements {α : Type} (element : (s : List Char) → Except Fault (Read α s)) (first : Bool)
    (s : List Char)
    : Except Fault (Read (List α) s) := do
  match ← beforeElement first s with
  | .closed rest shorter => pure ⟨[], rest, shorter⟩
  | .item start bound =>
    have := Bool.toNat_le first
    let head ← element start
    have := head.shorter
    let tail ← readElements element false head.rest
    have := tail.shorter
    pure ⟨head.value :: tail.value, tail.rest, by omega⟩
termination_by s.length

/-! ## Objects -/

/-- Passes over what comes before a key of an object, or over the end of the object. The rest of an
item starts after the first quote of its key. -/
def beforeKey (first : Bool) (s : List Char) : Except Fault (Next false s) :=
  match h : skipSpace s with
  | [] => .error (.here .endInObject [])
  | c :: rest =>
    have bound := length_lt_of_skipSpace_eq h
    if c = '\x7d' then
      .ok (.closed rest bound)
    else if first then
      if c = '"' then .ok (.item rest bound) else .error (.next .keyNotText (c :: rest))
    else if c = ',' then
      match h : skipSpace rest with
      | [] => .error (.here .endInValue [])
      | '"' :: rest' =>
        .ok (.item rest' (Nat.lt_trans (length_lt_of_skipSpace_eq h) bound))
      | '\x7d' :: rest' => .error (.next .trailingComma ('\x7d' :: rest'))
      | other => .error (.next .keyNotText other)
    else
      .error (.next .expectedObjectEnd (c :: rest))

/-- What is left after trying to end an object. -/
def closeObject (s : List Char) : List Char :=
  match skipSpace s with
  | '\x7d' :: rest => rest
  | rest => rest

/-- Reads members and the bracket that ends their object. -/
def readMembers {α : Type} (value : (s : List Char) → Except Fault (Read α s)) (first : Bool)
    (s : List Char)
    : Except Fault (Read (List (String × α)) s) := do
  match ← beforeKey first s with
  | .closed rest shorter => pure ⟨[], rest, shorter⟩
  | .item start bound =>
    have bound : start.length < s.length := bound
    let key ← readQuoted start
    have := key.shorter
    let afterColon ← readColon key.rest
    have := afterColon.2
    let head ← value afterColon.1
    have := head.shorter
    let tail ← readMembers value false head.rest
    have := tail.shorter
    pure ⟨(String.ofList key.value, head.value) :: tail.value, tail.rest, by omega⟩
termination_by s.length
decreasing_by omega

/-! ## Values of any kind -/

def readAny : Reader Json := fun budget s =>
  match h : skipSpace s with
  | '[' :: rest =>
    match budget with
    | 0 => .error (.next .recursionLimit ('[' :: rest))
    | inner + 1 => do
      let read ← readElements (readAny inner) true rest
      pure ((read.map .list).within (Nat.le_of_lt (length_lt_of_skipSpace_eq h)))
  | '\x7b' :: rest =>
    match budget with
    | 0 => .error (.next .recursionLimit ('\x7b' :: rest))
    | inner + 1 => do
      let read ← readMembers (readAny inner) true rest
      pure ((read.map .object).within (Nat.le_of_lt (length_lt_of_skipSpace_eq h)))
  | other => do
    let read ← readScalar other
    pure ((read.map Scalar.toJson).within (length_le_of_skipSpace_eq h))

namespace Reader

def text : Reader String := fun _ s =>
  match h : skipSpace s with
  | '"' :: rest => do
    let read ← readQuoted rest
    pure ((read.map String.ofList).within (Nat.le_of_lt (length_lt_of_skipSpace_eq h)))
  | other => .error (mismatch .text other)

/-- Reads `null` as nothing and else what the given reader reads. -/
def nullable {α : Type} (inner : Reader α) : Reader (Option α) := fun budget s =>
  match h : skipSpace s with
  | 'n' :: rest => do
    let after ← readWord ['u', 'l', 'l'] rest
    pure ⟨none, after.1, Nat.lt_of_le_of_lt after.2 (length_lt_of_skipSpace_eq h)⟩
  | _ => (inner budget s).map (Read.map some)

def list {α : Type} (element : Reader α) : Reader (List α) := fun budget s =>
  match h : skipSpace s with
  | '[' :: rest =>
    match budget with
    | 0 => .error (.next .recursionLimit ('[' :: rest))
    | inner + 1 => do
      let read ← (readElements (element inner) true rest).mapError (.settle closeList)
      pure (read.within (Nat.le_of_lt (length_lt_of_skipSpace_eq h)))
  | other => .error (mismatch .list other)

def unit : Reader Unit := fun _ s =>
  match h : skipSpace s with
  | 'n' :: rest => do
    let after ← readWord ['u', 'l', 'l'] rest
    pure ⟨(), after.1, Nat.lt_of_le_of_lt after.2 (length_lt_of_skipSpace_eq h)⟩
  | other => .error (mismatch .null other)

/-- Reads one of some names, as a string or as the only key of an object with the value `null`. -/
def variant {α : Type} (known : List (String × α)) : Reader α := fun budget s =>
  let choose {s : List Char} (read : Read (List Char) s) : Except Fault (Read α s) :=
    let name := String.ofList read.value
    match known.find? (·.1 == name) with
    | some choice => .ok (read.map fun _ => choice.2)
    | none => .error (.here (.unknownVariant name (known.map (·.1))) read.rest)
  match h : skipSpace s with
  | [] => .error (.here .endInValue [])
  | c :: rest =>
    have bound := length_lt_of_skipSpace_eq h
    if c = '"' then do
      let read ← readQuoted rest
      let choice ← choose read
      pure (choice.within (Nat.le_of_lt bound))
    else if c = '\x7b' then
      match budget with
      | 0 => .error (.next .recursionLimit (c :: rest))
      | inner + 1 =>
        match h : skipSpace rest with
        | [] => .error (.here .endInObject [])
        | '"' :: start => do
          let read ← readQuoted start
          let choice ← choose read
          let afterColon ← readColon choice.rest
          let null ← unit inner afterColon.1
          match h' : skipSpace null.rest with
          | '\x7d' :: after =>
            pure
              ⟨choice.value, after, by
                have := length_lt_of_skipSpace_eq h
                have := length_lt_of_skipSpace_eq h'
                have := choice.shorter
                have := afterColon.2
                have := null.shorter
                omega⟩
          | [] => .error (.here .endInObject [])
          | other => .error (.here .expectedValue other)
        | '\x7d' :: after => .error (.next .expectedValue ('\x7d' :: after))
        | other => .error (.next .keyNotText other)
    else
      .error (.next .expectedValue (c :: rest))

/-! ## Records -/

/-- A field of a record, read as a change to the value of the record. -/
structure Field (α : Type) where
  name : String
  /-- A field that is not required keeps the value that the record starts with. -/
  required : Bool
  read : Reader (α → α)

/-- A field that may be left out. -/
def Field.optional {α β : Type} (name : String) (value : Reader β) (set : β → α → α) : Field α :=
  ⟨name, false, fun budget s => (value budget s).map (Read.map set)⟩

/-- A field that may not be left out. -/
def Field.mandatory {α β : Type} (name : String) (value : Reader β) (set : β → α → α) : Field α :=
  ⟨name, true, fun budget s => (value budget s).map (Read.map set)⟩

/-- A record: its name, its fields in order and the value that they change. -/
structure Record (α : Type) where
  name : String
  start : α
  fields : List (Field α)

/-- Reads the end of a list from which every field was read. -/
def endOfList (s : List Char) : Except Fault (Read Unit s) :=
  match h : skipSpace s with
  | ']' :: rest =>
    .ok ⟨(), rest, length_lt_of_skipSpace_eq h⟩
  | [] => .error (.here .endInList [])
  | ',' :: rest =>
    match skipSpace rest with
    | ']' :: rest => .error (.next .trailingComma (']' :: rest))
    | other => .error (.next .trailingCharacters other)
  | other => .error (.next .trailingCharacters other)

/-- Reads the values of the fields from a list, in the order of the record. -/
def positional {α : Type} (record : Record α) (budget : Nat) (value : α) (first : Bool)
    (s : List Char)
    : List (Field α) → Except Fault (Read α s)
  | [] => (endOfList s).map (Read.map fun _ => value)
  | field :: fields => do
    match ← beforeElement first s with
    | .closed rest shorter =>
      match (field :: fields).findIdx? (·.required) with
      | none => pure ⟨value, rest, shorter⟩
      | some index =>
        let length := record.fields.length - (field :: fields).length + index
        .error (.here (.wrongLength length record.name record.fields.length) rest)
    | .item start bound =>
      have := Bool.toNat_le first
      let change ← field.read budget start
      have := change.shorter
      let read ← positional record budget (change.value value) false change.rest fields
      pure (read.within (by omega))

/-- Reads the values of the fields from an object, in any order. -/
def named {α : Type} (record : Record α) (budget : Nat) (value : α) (seen : List String)
    (first : Bool) (s : List Char)
    : Except Fault (Read α s) := do
  match ← beforeKey first s with
  | .closed rest shorter =>
    match record.fields.find? fun field => field.required && !seen.contains field.name with
    | none => pure ⟨value, rest, shorter⟩
    | some field => .error (.here (.missingField field.name) rest)
  | .item start bound =>
    have bound : start.length < s.length := bound
    let key ← readQuoted start
    have := key.shorter
    let name := String.ofList key.value
    match record.fields.find? (·.name == name) with
    | some field =>
      if seen.contains name then
        .error (.here (.duplicateField name) (closeObject key.rest))
      else
        let afterColon ← readColon key.rest
        have := afterColon.2
        let change ← field.read budget afterColon.1
        have := change.shorter
        let read ← named record budget (change.value value) (name :: seen) false change.rest
        pure (read.within (by omega))
    | none =>
      let afterColon ← readColon key.rest
      have := afterColon.2
      let skipped ← skipValue afterColon.1
      have := skipped.2
      let read ← named record budget value seen false skipped.1
      pure (read.within (by omega))
termination_by s.length
decreasing_by all_goals omega

/-- Reads a record, as an object or as a list of the values of its fields. -/
def record {α : Type} (record : Record α) : Reader α := fun budget s =>
  match h : skipSpace s with
  | [] => .error (mismatch (.record record.name) [])
  | c :: rest =>
    have bound := Nat.le_of_lt (length_lt_of_skipSpace_eq h)
    if c = '[' then
      match budget with
      | 0 => .error (.next .recursionLimit (c :: rest))
      | inner + 1 => do
        let read ← (positional record inner record.start true rest record.fields).mapError
          (.settle closeList)
        pure (read.within bound)
    else if c = '\x7b' then
      match budget with
      | 0 => .error (.next .recursionLimit (c :: rest))
      | inner + 1 => do
        let read ← (named record inner record.start [] true rest).mapError (.settle closeObject)
        pure (read.within bound)
    else
      .error (mismatch (.record record.name) (c :: rest))

end Reader

/-- Brackets that may be open at once while a value is read. -/
def nestingLimit : Nat := 127

/-- Reads a whole text, in which only blanks may follow the value. -/
def read {α : Type} (reader : Reader α) (text : String) : Except Error α :=
  let whole : Except Fault α := do
    let read ← reader nestingLimit text.toList
    match skipSpace read.rest with
    | [] => pure read.value
    | rest => .error (.next .trailingCharacters rest)
  whole.mapError (.ofFault text.toList)

end ClassDiagram.Json
