import ClassDiagram.Decimal.Shortest
import ClassDiagram.Json.Numeral
import ClassDiagram.Text.Quoted

/-! Why a JSON text cannot be read, and where. While reading, a place is known by the
bytes that are left after it; it becomes a line and a column once the whole text is at
hand.
-/

namespace ClassDiagram.Json

/-- A value that is not in brackets. -/
inductive Scalar where
  | null
  | bool (value : Bool)
  | number (numeral : Numeral) (value : Number)
  | text (value : String)

def Scalar.toJson : Scalar → Json
  | null => .null
  | bool value => .bool value
  | number numeral _ => .number numeral
  | text value => .text value

/-- What was found in place of what was expected. -/
inductive Found where
  | scalar (value : Scalar)
  | list
  | object

inductive Expected where
  | text
  | list
  | null
  | record (name : String)

/-- Why a text cannot be read. -/
inductive Cause where
  | endInValue
  | endInList
  | endInObject
  | endInText
  | expectedColon
  | expectedListEnd
  | expectedObjectEnd
  | expectedWord
  | expectedValue
  | keyNotText
  | trailingComma
  | trailingCharacters
  | recursionLimit
  | invalidNumber
  | numberOutOfRange
  | invalidEscape
  | loneSurrogate
  | unfinishedSurrogate
  | controlCharacter
  | wrongType (found : Found) (expected : Expected)
  | wrongLength (length : Nat) (record : String) (fields : Nat)
  | missingField (name : String)
  | duplicateField (name : String)
  | unknownVariant (name : String) (known : List String)
  | noVariant (type : String)

/-- Numbers between 1e-5 and 1e16 are written without an exponent. -/
def Number.layout : Decimal.Layout := ⟨-5, 15⟩

/-- A name in the marks that error texts use. -/
def ticked (name : String) : String :=
  "`" ++ name ++ "`"

def Scalar.description : Scalar → String
  | null => "null"
  | bool value => "boolean " ++ ticked (if value then "true" else "false")
  | number _ (.integer value) => "integer " ++ ticked (toString value)
  | number _ (.floating value) => "floating point " ++ ticked (Number.layout.writeFloat value)
  | text value => "string " ++ Text.quote value

def Found.description : Found → String
  | scalar value => value.description
  | list => "sequence"
  | object => "map"

def Expected.description : Expected → String
  | .text => "a string"
  | list => "a sequence"
  | null => "unit"
  | record name => "struct " ++ name

/-- The words for a choice of names. -/
def oneOf : List String → String
  | [first, second] => ticked first ++ " or " ++ ticked second
  | names => "one of " ++ ", ".intercalate (names.map ticked)

def Cause.message : Cause → String
  | endInValue => "EOF while parsing a value"
  | endInList => "EOF while parsing a list"
  | endInObject => "EOF while parsing an object"
  | endInText => "EOF while parsing a string"
  | expectedColon => "expected " ++ ticked ":"
  | expectedListEnd => "expected " ++ ticked "," ++ " or " ++ ticked "]"
  | expectedObjectEnd => "expected " ++ ticked "," ++ " or " ++ ticked "\x7d"
  | expectedWord => "expected ident"
  | expectedValue => "expected value"
  | keyNotText => "key must be a string"
  | trailingComma => "trailing comma"
  | trailingCharacters => "trailing characters"
  | recursionLimit => "recursion limit exceeded"
  | invalidNumber => "invalid number"
  | numberOutOfRange => "number out of range"
  | invalidEscape => "invalid escape"
  | loneSurrogate => "lone leading surrogate in hex escape"
  | unfinishedSurrogate => "unexpected end of hex escape"
  | controlCharacter => "control character (\\u0000-\\u001F) found while parsing a string"
  | wrongType found expected =>
    "invalid type: " ++ found.description ++ ", expected " ++ expected.description
  | wrongLength length record fields =>
    "invalid length " ++ toString length ++ ", expected struct " ++ record ++ " with "
      ++ toString fields ++ " elements"
  | missingField name => "missing field " ++ ticked name
  | duplicateField name => "duplicate field " ++ ticked name
  | unknownVariant name known => "unknown variant " ++ ticked name ++ ", expected " ++ oneOf known
  | noVariant type => "data did not match any variant of untagged enum " ++ type

/-- A place in a text: lines count from one, columns are bytes since the line began. -/
structure Position where
  line : Nat
  column : Nat
  deriving DecidableEq, Repr

/-- The place after the given number of bytes. -/
def Position.after (position : Position) : List Char → Nat → Position
  | [], _ => position
  | c :: rest, bytes =>
    if bytes = 0 then
      position
    else if bytes < c.utf8Size then
      { position with column := position.column + bytes }
    else
      let step : Position :=
        if c = '\n' then ⟨position.line + 1, 0⟩
        else ⟨position.line, position.column + c.utf8Size⟩
      step.after rest (bytes - c.utf8Size)

/-- Bytes of a text. -/
def left (text : List Char) : Nat :=
  text.foldr (fun c left => c.utf8Size + left) 0

/-- A failed attempt to read. -/
inductive Fault where
  /-- A fault at a known place, given by the bytes left after it. -/
  | placed (cause : Cause) (left : Nat)
  /-- A fault whose place the enclosing bracket decides, with what was not read yet. -/
  | unplaced (cause : Cause) (rest : List Char)

namespace Fault

/-- A fault before what was not read yet. -/
def here (cause : Cause) (rest : List Char) : Fault :=
  .placed cause (left rest)

/-- A fault after the first byte of what was not read yet. -/
def next (cause : Cause) (rest : List Char) : Fault :=
  .placed cause (left rest - 1)

/-- The fault as placed by an enclosing bracket, which tries to read its own end first. -/
def settle (close : List Char → List Char) : Fault → Fault
  | placed cause left => .placed cause left
  | unplaced cause rest => .here cause (close rest)

end Fault

/-- Why and where a whole text could not be read. -/
structure Error where
  cause : Cause
  position : Option Position

/-- The error that a fault means for a whole text. -/
def Error.ofFault (text : List Char) : Fault → Error
  | .placed cause bytes => ⟨cause, some (Position.after ⟨1, 0⟩ text (left text - bytes))⟩
  | .unplaced cause _ => ⟨cause, none⟩

def Error.message (error : Error) : String :=
  match error.position with
  | none => error.cause.message
  | some position =>
    error.cause.message ++ " at line " ++ toString position.line ++ " column "
      ++ toString position.column

end ClassDiagram.Json
