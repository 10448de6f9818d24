import ClassDiagram.Json.Token

/-! Passing over a value that nothing is read from. Open brackets are kept in a list, so
that values of any depth can be passed over. The rules are looser than for values that are
read: surrogates need not be paired and numbers have no range.
-/

namespace ClassDiagram.Json

inductive Bracket where
  | list
  | object
  deriving DecidableEq

namespace Bracket

/-- The cause of a fault where the text ends after an opening bracket or an item. -/
def atEnd : Bracket → Cause
  | list => .endInList
  | object => .endInObject

/-- The cause of a fault where neither a comma nor the closing bracket follows an item. -/
def unseparated : Bracket → Cause
  | list => .expectedListEnd
  | object => .expectedObjectEnd

def closing : Bracket → Char
  | list => ']'
  | object => '\x7d'

end Bracket

/-- Passes over a string, from after its first quote. -/
def skipQuoted (s : List Char) : Except Fault (Rest s) :=
  match s with
  | [] => .error (.here .endInText [])
  | c :: rest =>
    if c = '"' then
      .ok ⟨rest, length_le_cons c rest⟩
    else if c = '\\' then
      match rest with
      | [] => .error (.here .endInText [])
      | letter :: rest =>
        if letter = 'u' then do
          let unit ← readUnit rest
          let after ← skipQuoted unit.rest
          pure (.cons c (.cons letter (unit.before after)))
        else if (shortEscape? letter).isSome then do
          let after ← skipQuoted rest
          pure (.cons c (.cons letter after))
        else
          .error (.next .invalidEscape (letter :: rest))
    else if c.toNat < 0x20 then
      .error (.here .controlCharacter s)
    else do
      let after ← skipQuoted rest
      pure (.cons c after)
termination_by s.length
decreasing_by
  · exact Nat.lt_trans unit.shorter (Nat.lt_succ_of_lt (length_lt_cons letter rest))
  · exact Nat.lt_succ_of_lt (length_lt_cons letter rest)
  · exact length_lt_cons c rest

def readColon (s : List Char) : Except Fault (Rest s) :=
  match h : skipSpace s with
  | ':' :: rest =>
    .ok ⟨rest, Nat.le_of_lt (length_lt_of_skipSpace_eq h)⟩
  | [] => .error (.here .endInObject [])
  | other => .error (.next .expectedColon other)

/-- Passes over the key of an object and the colon after it. -/
def skipKey (s : List Char) : Except Fault (Rest s) :=
  match h : skipSpace s with
  | '"' :: rest => do
    let key ← skipQuoted rest
    let after ← readColon key.1
    have := length_lt_of_skipSpace_eq h
    have := key.2
    have := after.2
    pure ⟨after.1, by omega⟩
  | [] => .error (.here .endInObject [])
  | other => .error (.next .keyNotText other)

/-- Passes over a value that is not in brackets. -/
def skipScalar (s : List Char) : Except Fault (Read Unit s) :=
  match s with
  | [] => .error (.here .endInValue [])
  | c :: rest =>
    let after : Rest rest → Read Unit (c :: rest) := .afterFirst c ()
    if c = 'n' then
      (readWord ['u', 'l', 'l'] rest).map after
    else if c = 't' then
      (readWord ['r', 'u', 'e'] rest).map after
    else if c = 'f' then
      (readWord ['a', 'l', 's', 'e'] rest).map after
    else if c = '"' then
      (skipQuoted rest).map after
    else if startsNumber c then
      (readNumeral .invalidNumber (c :: rest)).map (Read.map fun _ => ())
    else
      .error (.next .expectedValue (c :: rest))

/-- What comes after an opening bracket or an item. -/
inductive Next (first : Bool) (s : List Char) where
  /-- The closing bracket, already passed. -/
  | closed (rest : List Char) (shorter : rest.length < s.length)
  /-- An item that starts the rest. -/
  | item (rest : List Char) (shorter : rest.length < s.length + first.toNat)

/-- A text that starts with a character after some blanks is short enough for the first item. -/
theorem length_lt_first {s rest : List Char} {c : Char} (bound : rest.length < s.length)
    : (c :: rest).length < s.length + true.toNat :=
  Nat.succ_lt_succ bound

/-- Passes over what comes before an item; in an object that is also the key of the item. -/
def skipBetween (bracket : Bracket) (first : Bool) (s : List Char)
    : Except Fault (Next first s) :=
  match h : skipSpace s with
  | [] => .error (.here bracket.atEnd [])
  | c :: rest =>
    have bound := length_lt_of_skipSpace_eq h
    if c = bracket.closing then
      .ok (.closed rest bound)
    else if !first && c ≠ ',' then
      .error (.next bracket.unseparated (c :: rest))
    else
      let start : { start : List Char // start.length < s.length + first.toNat } :=
        match first with
        | true => ⟨c :: rest, length_lt_first bound⟩
        | false => ⟨rest, bound⟩
      match bracket with
      | .list => .ok (.item start.1 start.2)
      | .object => do
        let value ← skipKey start.1
        pure (.item value.1 (Nat.lt_of_le_of_lt value.2 start.2))

/-- What is passed over next. -/
inductive Expects where
  | value
  | between (first : Bool)

/-- Passes over the rest of the values that the open brackets enclose, the innermost first. -/
def skipOpen (brackets : List Bracket) (expects : Expects) (s : List Char)
    : Except Fault (List Char) :=
  match expects with
  | .value =>
    match _h : skipSpace s with
    | '[' :: rest => skipOpen (.list :: brackets) (.between true) rest
    | '\x7b' :: rest => skipOpen (.object :: brackets) (.between true) rest
    | other =>
      match skipScalar other with
      | .error fault => .error fault
      | .ok scalar => skipOpen brackets (.between false) scalar.rest
  | .between first =>
    match brackets with
    | [] => .ok s
    | bracket :: outer =>
      match skipBetween bracket first s with
      | .error fault => .error fault
      | .ok (.closed rest _) => skipOpen outer (.between false) rest
      | .ok (.item rest _) => skipOpen (bracket :: outer) .value rest
termination_by 2 * s.length + match expects with | .value => 0 | .between _ => 1
decreasing_by
  · have := length_lt_of_skipSpace_eq _h
    omega
  · have := length_lt_of_skipSpace_eq _h
    omega
  · have := length_le_of_skipSpace_eq _h
    have := scalar.shorter
    simp
    omega
  · simp
    omega
  · have := Bool.toNat_le first
    simp
    omega

/-- Passing over values makes no text longer. -/
theorem length_skipOpen_le {brackets : List Bracket} {expects : Expects} {s rest : List Char}
    (h : skipOpen brackets expects s = .ok rest)
    : rest.length ≤ s.length := by
  fun_induction skipOpen brackets expects s with
  | case1 brackets s after hs ih | case2 brackets s after hs ih =>
    have bound := length_le_of_skipSpace_eq hs
    have tail := ih h
    simp at bound tail
    omega
  | case3 => simp at h
  | case4 brackets s _ _ scalar _ ih =>
    have bound := length_skipSpace_le s
    have tail := ih h
    have := scalar.shorter
    omega
  | case5 => simp_all
  | case6 => simp at h
  | case7 s first bracket outer after shorter _ ih =>
    have tail := ih h
    omega
  | case8 s first bracket outer item shorter _ ih =>
    have tail := ih h
    have := Bool.toNat_le first
    omega

def skipValue (s : List Char) : Except Fault (Rest s) :=
  match h : skipOpen [] .value s with
  | .ok rest => .ok ⟨rest, length_skipOpen_le h⟩
  | .error fault => .error fault

end ClassDiagram.Json
