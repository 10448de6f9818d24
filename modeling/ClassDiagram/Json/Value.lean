/-! JSON values and their text. Numbers are kept as numerals, so that writing loses
nothing, and objects keep their members in order.
-/

namespace ClassDiagram

namespace Json

/-- A decimal digit. -/
abbrev Digit := Fin 10

/-- The last decimal digit of a number. -/
def Digit.ofNat (value : Nat) : Digit :=
  ⟨value % 10, Nat.mod_lt value (Nat.succ_pos 9)⟩

/-- The exponent of a numeral, with at least one digit. -/
structure Exponent where
  negative : Bool := false
  leading : Digit
  further : List Digit := []
  deriving DecidableEq, Repr

/-- A number as it is written: the point is left out with the fraction. -/
structure Numeral where
  negative : Bool := false
  whole : Nat
  fraction : List Digit := []
  exponent : Option Exponent := none
  deriving DecidableEq, Repr

namespace Numeral

def digitChars (digits : List Digit) : List Char :=
  digits.map fun digit => Nat.digitChar digit.val

def chars (numeral : Numeral) : List Char :=
  (if numeral.negative then ['-'] else [])
    ++ Nat.toDigits 10 numeral.whole
    ++ (if numeral.fraction.isEmpty then [] else '.' :: digitChars numeral.fraction)
    ++ match numeral.exponent with
      | none => []
      | some exponent =>
        ['e'] ++ (if exponent.negative then ['-'] else [])
          ++ digitChars (exponent.leading :: exponent.further)

end Numeral

end Json

inductive Json where
  | null
  | bool (value : Bool)
  | number (numeral : Json.Numeral)
  | text (value : String)
  | list (items : List Json)
  | object (members : List (String × Json))
  deriving Repr

namespace Json

def ofNat (value : Nat) : Json :=
  .number { whole := value }

/-- A text that may be absent. -/
def ofText? : Option String → Json
  | none => .null
  | some value => .text value

/-- A character inside a JSON string. -/
def escapeChar (c : Char) : List Char :=
  match c with
  | '"' => ['\\', '"']
  | '\\' => ['\\', '\\']
  | '\x08' => ['\\', 'b']
  | '\x0c' => ['\\', 'f']
  | '\n' => ['\\', 'n']
  | '\r' => ['\\', 'r']
  | '\t' => ['\\', 't']
  | c =>
    if c.toNat < 0x20 then
      "\\u00".toList ++ [Nat.digitChar (c.toNat / 16), Nat.digitChar (c.toNat % 16)]
    else
      [c]

/-- Characters of a JSON string, quotes included. -/
def textChars (value : String) : List Char :=
  '"' :: value.toList.flatMap escapeChar ++ ['"']

/-- Pieces with a comma between each two. -/
def commaSeparated : List (List Char) → List Char
  | [] => []
  | [piece] => piece
  | piece :: rest => piece ++ ',' :: commaSeparated rest

mutual

def chars : Json → List Char
  | null => "null".toList
  | bool true => "true".toList
  | bool false => "false".toList
  | number numeral => numeral.chars
  | text value => textChars value
  | list items => '[' :: commaSeparated (itemChars items) ++ [']']
  | object members => "\x7b".toList ++ commaSeparated (memberChars members) ++ "\x7d".toList

def itemChars : List Json → List (List Char)
  | [] => []
  | item :: rest => item.chars :: itemChars rest

def memberChars : List (String × Json) → List (List Char)
  | [] => []
  | (key, value) :: rest => (textChars key ++ ':' :: value.chars) :: memberChars rest

end

/-- Text of a value without any blanks. -/
def render (value : Json) : String :=
  String.ofList value.chars

/-- Lines in brackets, each one level deeper, with commas between them. -/
def block (opening closing : Char) (depth : Nat) (lines : List (List Char)) : List Char :=
  if lines.isEmpty then
    [opening, closing]
  else
    let indent (depth : Nat) : List Char := List.replicate (2 * depth) ' '
    opening :: commaSeparated (lines.map fun line => '\n' :: indent (depth + 1) ++ line)
      ++ '\n' :: indent depth ++ [closing]

mutual

/-- Characters of a value with one item or member a line. -/
def prettyChars (depth : Nat) : Json → List Char
  | list items => block '[' ']' depth (prettyItems (depth + 1) items)
  | object members => block '\x7b' '\x7d' depth (prettyMembers (depth + 1) members)
  | value => value.chars

def prettyItems (depth : Nat) : List Json → List (List Char)
  | [] => []
  | item :: rest => item.prettyChars depth :: prettyItems depth rest

def prettyMembers (depth : Nat) : List (String × Json) → List (List Char)
  | [] => []
  | (key, value) :: rest =>
    (textChars key ++ ':' :: ' ' :: value.prettyChars depth) :: prettyMembers depth rest

end

/-- Text of a value with one item or member a line, indented by two blanks. -/
def pretty (value : Json) : String :=
  String.ofList (value.prettyChars 0)

end Json

end ClassDiagram
