import ClassDiagram.Json.Value
import ClassDiagram.Log.Record
import ClassDiagram.Text.Quoted
import ClassDiagram.Text.Split

/-! How records are shown: on a line for reading, or as JSON.
-/

namespace ClassDiagram.Log

/-- The ways to show records. -/
inductive Format where
  | compact
  | pretty
  | json
  deriving DecidableEq, Repr

namespace Format

def text : Format → String
  | compact => "compact"
  | pretty => "pretty"
  | json => "json"

def all : List Format := [compact, pretty, json]

/-- The format with the given name, in small or capital letters. -/
def ofText? (text : String) : Option Format :=
  all.find? fun format => format.text == text.toLower

/-- The text for a name that no format has. -/
def unknown (text : String) : String :=
  "Unknown log format: " ++ text

end Format

def Value.compact : Value → String
  | number value => toString value
  | text value => Text.quote value
  | plain value => value

/-- A field on a line, after a blank. -/
def Field.compact (field : Field) : String :=
  " " ++ field.name ++ "=" ++ field.value.compact

/-- The name of a level in five places. -/
def Level.column (level : Level) : String :=
  String.ofList (List.replicate (5 - level.text.length) ' ') ++ level.text

/-- A record on a line; only events are shown. The fields of the event come before those of the
spans around it. -/
def Record.compact? (time : String) : Record → Option String
  | close .. => none
  | event happened spans =>
    let path := Text.concat (spans.map fun span => span.name ++ ":")
    let fields := happened.fields ++ spans.flatMap Span.fields
    some
      (time ++ " " ++ happened.level.column ++ " " ++ path ++ (if spans.isEmpty then "" else " ")
        ++ happened.message ++ Text.concat (fields.map Field.compact))

def Value.toJson : Value → Json
  | number value => .ofNat value
  | text value => .text value
  | plain value => .text value

def Field.toMember (field : Field) : String × Json :=
  (field.name, field.value.toJson)

def Span.toJson (span : Span) : Json :=
  .object (span.fields.map Field.toMember ++ [("name", .text span.name)])

/-- The members of a record as a JSON object, but for the time. An event names the innermost span
around it; the end of a span names that span and only the others as being around it. -/
def Record.members : Record → List (String × Json)
  | event happened spans =>
    let message := ("message", Json.text happened.message)
    [
      ("level", .text happened.level.text),
      ("fields", .object (message :: happened.fields.map Field.toMember)),
      ("target", .text happened.target.text)
    ] ++ match spans.getLast? with
      | none => []
      | some span => [("span", span.toJson), ("spans", .list (spans.map Span.toJson))]
  | close span outer =>
    [
      ("level", .text span.level.text),
      ("fields", .object [("message", .text "close")]),
      ("target", .text span.target.text),
      ("span", span.toJson),
      ("spans", .list (outer.map Span.toJson))
    ]

end ClassDiagram.Log
