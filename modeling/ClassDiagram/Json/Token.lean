import ClassDiagram.Json.Fault
import ClassDiagram.Text.Hex

/-! The scalars of JSON text. Each reader takes characters from the front and returns the
rest with the proof that it is shorter, which is what lets the loops over them end.
-/

namespace ClassDiagram.Json

/-- A value read from the front of a text, and what comes after it. -/
structure Read (α : Type) (s : List Char) where
  value : α
  rest : List Char
  shorter : rest.length < s.length

/-- A text that is no longer than the given one. -/
abbrev Rest (s : List Char) :=
  { rest : List Char // rest.length ≤ s.length }

theorem length_lt_cons (c : Char) (rest : List Char) : rest.length < (c :: rest).length :=
  Nat.lt_succ_self rest.length

theorem length_le_cons (c : Char) (rest : List Char) : rest.length ≤ (c :: rest).length :=
  Nat.le_succ rest.length

/-- What comes after a part of a text, seen from one character earlier. -/
def Rest.cons {s : List Char} (c : Char) (after : Rest s) : Rest (c :: s) :=
  ⟨after.1, Nat.le_succ_of_le after.2⟩

/-- What comes after a part of the text that a value was read before. -/
def Read.before {α : Type} {s : List Char} (read : Read α s) (after : Rest read.rest) : Rest s :=
  ⟨after.1, Nat.le_trans after.2 (Nat.le_of_lt read.shorter)⟩

/-- A value read from the first character on, and what comes after it. -/
def Read.afterFirst {α : Type} {rest : List Char} (c : Char) (value : α) (after : Rest rest)
    : Read α (c :: rest) :=
  ⟨value, after.1, Nat.lt_succ_of_le after.2⟩

/-- The same value, read from a text at least as long. -/
def Read.within {α : Type} {s t : List Char} (read : Read α s) (h : s.length ≤ t.length)
    : Read α t :=
  ⟨read.value, read.rest, Nat.lt_of_lt_of_le read.shorter h⟩

/-- The read value changed by a function. -/
def Read.map {α β : Type} {s : List Char} (f : α → β) (read : Read α s) : Read β s :=
  ⟨f read.value, read.rest, read.shorter⟩

/-- The blanks allowed between tokens. -/
def isSpace (c : Char) : Bool :=
  c = ' ' || c = '\t' || c = '\n' || c = '\r'

/-- The text after its leading blanks. -/
def skipSpace (s : List Char) : List Char :=
  s.dropWhile isSpace

theorem length_skipSpace_le (s : List Char) : (skipSpace s).length ≤ s.length :=
  (List.dropWhile_sublist isSpace).length_le

theorem length_le_of_skipSpace_eq {s t : List Char} (h : skipSpace s = t) : t.length ≤ s.length :=
  h ▸ length_skipSpace_le s

/-- What follows the first character after leading blanks is shorter than the whole. -/
theorem length_lt_of_skipSpace_eq {s rest : List Char} {c : Char} (h : skipSpace s = c :: rest)
    : rest.length < s.length :=
  length_le_of_skipSpace_eq h

/-- Reads the given letters. -/
def readWord : List Char → (s : List Char) → Except Fault (Rest s)
  | [], s => .ok ⟨s, Nat.le_refl _⟩
  | _ :: _, [] => .error (.here .endInValue [])
  | letter :: letters, c :: rest =>
    if c = letter then do
      let after ← readWord letters rest
      pure (after.cons c)
    else
      .error (.next .expectedWord (c :: rest))

/-! ## Strings -/

/-- Reads four hexadecimal digits; a fault is placed after four bytes. -/
def readUnit (s : List Char) : Except Fault (Read Nat s) :=
  if left (s.take 4) < 4 then
    .error (.here .endInText [])
  else
    match s with
    | a :: b :: c :: d :: rest =>
      match Text.hexValue? a, Text.hexValue? b, Text.hexValue? c, Text.hexValue? d with
      | some a, some b, some c, some d =>
        .ok ⟨((a * 16 + b) * 16 + c) * 16 + d, rest, by simp only [List.length_cons]; omega⟩
      | _, _, _, _ => .error (.placed .invalidEscape (left s - 4))
    | _ => .error (.placed .invalidEscape (left s - 4))

/-- Whether a unit is the first of a surrogate pair. -/
def isHighSurrogate (unit : Nat) : Bool :=
  0xD800 ≤ unit && unit ≤ 0xDBFF

/-- Whether a unit is the second of a surrogate pair. -/
def isLowSurrogate (unit : Nat) : Bool :=
  0xDC00 ≤ unit && unit ≤ 0xDFFF

/-- Reads the character given by one unit, or by two that form a surrogate pair. -/
def readUnitEscape (s : List Char) : Except Fault (Read Char s) := do
  let first ← readUnit s
  if isLowSurrogate first.value then
    .error (.here .loneSurrogate first.rest)
  else if isHighSurrogate first.value then
    match h : first.rest with
    | '\\' :: 'u' :: rest => do
      let second ← readUnit rest
      if isLowSurrogate second.value then
        have := first.shorter
        have := second.shorter
        have : rest.length < first.rest.length := by
          rw [h]
          simp only [List.length_cons]
          omega
        pure
          ⟨.ofNat (0x10000 + (first.value - 0xD800) * 0x400 + (second.value - 0xDC00)),
            second.rest, by omega⟩
      else
        .error (.here .loneSurrogate second.rest)
    | ['\\'] | [] => .error (.here .endInText [])
    | '\\' :: rest => .error (.next .unfinishedSurrogate rest)
    | rest => .error (.next .unfinishedSurrogate rest)
  else
    pure (first.map .ofNat)

/-- The character meant by a letter after a backslash. -/
def shortEscape? (letter : Char) : Option Char :=
  match letter with
  | '"' => some '"'
  | '\\' => some '\\'
  | '/' => some '/'
  | 'b' => some '\x08'
  | 'f' => some '\x0c'
  | 'n' => some '\n'
  | 'r' => some '\r'
  | 't' => some '\t'
  | _ => none

/-- Reads what follows a backslash. -/
def readEscape (s : List Char) : Except Fault (Read Char s) :=
  match s with
  | [] => .error (.here .endInText [])
  | letter :: rest =>
    if letter = 'u' then do
      let read ← readUnitEscape rest
      pure (read.within (length_le_cons letter rest))
    else
      match shortEscape? letter with
      | some c => .ok ⟨c, rest, length_lt_cons letter rest⟩
      | none => .error (.next .invalidEscape s)

/-- Reads the characters of a string and the quote that ends it. -/
def readQuoted (s : List Char) : Except Fault (Read (List Char) s) :=
  match s with
  | [] => .error (.here .endInText [])
  | c :: rest =>
    if c = '"' then
      .ok ⟨[], rest, length_lt_cons c rest⟩
    else if c = '\\' then do
      let first ← readEscape rest
      have := first.shorter
      let others ← readQuoted first.rest
      have := others.shorter
      pure ⟨first.value :: others.value, others.rest, by simp only [List.length_cons]; omega⟩
    else if c.toNat < 0x20 then
      .error (.next .controlCharacter s)
    else do
      let others ← readQuoted rest
      have := others.shorter
      pure ⟨c :: others.value, others.rest, by simp only [List.length_cons]; omega⟩
termination_by s.length
decreasing_by
  · simp only [List.length_cons]
    omega
  · exact length_lt_cons c rest

/-! ## Numbers -/

def digit? (c : Char) : Option Digit :=
  if '0' ≤ c && c ≤ '9' then some (Digit.ofNat (c.toNat - '0'.toNat)) else none

/-- Reads as many digits as there are. -/
def readDigits : (s : List Char) → List Digit × Rest s
  | [] => ([], ⟨[], Nat.le_refl _⟩)
  | c :: rest =>
    match digit? c with
    | some digit =>
      let (others, after) := readDigits rest
      (digit :: others, Rest.cons c after)
    | none => ([], ⟨c :: rest, Nat.le_refl _⟩)

/-- The fault of a text that does not go on with a digit. -/
def noDigit (atEnd : Cause) (s : List Char) : Fault :=
  if s.isEmpty then .here atEnd s else .next .invalidNumber s

/-- Reads the digits before the point: a zero that stands alone, or some that start with another. -/
def wholePart (atEnd : Cause) (s : List Char) : Except Fault (Read Nat s) :=
  match s with
  | [] => .error (noDigit atEnd s)
  | c :: rest =>
    match digit? c with
    | none => .error (noDigit atEnd s)
    | some first =>
      let (others, after) := readDigits rest
      if first.val = 0 && !others.isEmpty then
        .error (.next .invalidNumber rest)
      else
        .ok
          (.afterFirst c (others.foldl (fun value digit => value * 10 + digit.val) first.val)
            after)

/-- Reads a point and the digits after it, if there is a point. -/
def fractionPart (atEnd : Cause) (s : List Char) : Except Fault (List Digit × Rest s) :=
  match s with
  | '.' :: rest =>
    match readDigits rest with
    | ([], after) => .error (noDigit atEnd after.1)
    | (found, after) => .ok (found, ⟨after.1, Nat.le_succ_of_le after.2⟩)
  | s => .ok ([], ⟨s, Nat.le_refl _⟩)

/-- Reads the sign of an exponent, if there is one. -/
def exponentSign : (s : List Char) → Bool × Rest s
  | '-' :: rest => (true, ⟨rest, Nat.le_succ _⟩)
  | '+' :: rest => (false, ⟨rest, Nat.le_succ _⟩)
  | s => (false, ⟨s, Nat.le_refl _⟩)

/-- Reads an exponent, if there is one. -/
def exponentPart (atEnd : Cause) (s : List Char) : Except Fault (Option Exponent × Rest s) :=
  match s with
  | [] => .ok (none, ⟨[], Nat.le_refl _⟩)
  | c :: rest =>
    if c = 'e' || c = 'E' then
      let (negative, unsigned) := exponentSign rest
      match readDigits unsigned.1 with
      | ([], after) => .error (noDigit atEnd after.1)
      | (leading :: further, after) =>
        .ok
          (some { negative, leading, further },
            ⟨after.1, Nat.le_succ_of_le (Nat.le_trans after.2 unsigned.2)⟩)
    else
      .ok (none, ⟨c :: rest, Nat.le_refl _⟩)

/-- Reads a numeral; `atEnd` is the cause of a fault where the text ends inside of it. -/
def readNumeral (atEnd : Cause) (s : List Char) : Except Fault (Read Numeral s) := do
  let (negative, unsigned) : Bool × Rest s :=
    match s with
    | '-' :: rest => (true, ⟨rest, Nat.le_succ _⟩)
    | s => (false, ⟨s, Nat.le_refl _⟩)
  let whole ← wholePart atEnd unsigned.1
  let (fraction, afterFraction) ← fractionPart atEnd whole.rest
  let (exponent, rest) ← exponentPart atEnd afterFraction.1
  pure
    ⟨{ negative, whole := whole.value, fraction, exponent }, rest.1, by
      have := whole.shorter
      have := unsigned.2
      have := afterFraction.2
      have := rest.2
      omega⟩

/-- Reads a numeral that has a value. -/
def readNumber (s : List Char) : Except Fault (Read Scalar s) := do
  let read ← readNumeral .endInValue s
  match read.value.value with
  | .ok value => pure (read.map (.number · value))
  | .error unread => .error (.placed .numberOutOfRange (left read.rest + unread))

/-- Whether a character starts a number. -/
def startsNumber (c : Char) : Bool :=
  c = '-' || c.isDigit

/-- Reads a value that is not in brackets. -/
def readScalar (s : List Char) : Except Fault (Read Scalar s) :=
  match s with
  | [] => .error (.here .endInValue [])
  | c :: rest =>
    let literal (letters : List Char) (value : Scalar) : Except Fault (Read Scalar (c :: rest)) :=
      (readWord letters rest).map (Read.afterFirst c value)
    if c = 'n' then
      literal ['u', 'l', 'l'] .null
    else if c = 't' then
      literal ['r', 'u', 'e'] (.bool true)
    else if c = 'f' then
      literal ['a', 'l', 's', 'e'] (.bool false)
    else if c = '"' then
      (readQuoted rest).map fun read =>
        (read.map fun value => Scalar.text (String.ofList value)).within (Nat.le_succ _)
    else if startsNumber c then
      readNumber (c :: rest)
    else
      .error (.next .expectedValue (c :: rest))

end ClassDiagram.Json
