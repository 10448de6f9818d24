/-! What a run reports about itself: events, and spans of time that enclose them. A record
says which spans were open, the outermost first.
-/

namespace ClassDiagram.Log

/-- How important a record is. -/
inductive Level where
  | error
  | warn
  | info
  | debug
  | trace
  deriving DecidableEq, Repr

namespace Level

def text : Level → String
  | error => "ERROR"
  | warn => "WARN"
  | info => "INFO"
  | debug => "DEBUG"
  | trace => "TRACE"

/-- Verbosity: a threshold lets through what is not more verbose than itself. -/
def verbosity : Level → Nat
  | error => 1
  | warn => 2
  | info => 3
  | debug => 4
  | trace => 5

/-- All levels, from the least verbose on. -/
def all : List Level := [error, warn, info, debug, trace]

end Level

/-- The parts of the program that report. -/
inductive Target where
  | declarations
  | diagram
  | registry
  | generator
  | mermaid
  | yuml
  | upload
  | commandLine
  deriving DecidableEq, Repr

/-- The name under which a part of the program reports. -/
def Target.text : Target → String
  | declarations => "tsuml::core::normalizer"
  | diagram => "tsuml::core::model"
  | registry => "tsuml::core::registry"
  | generator => "tsuml::plugins::generator"
  | mermaid => "tsuml::plugins::mermaid::engine"
  | yuml => "tsuml::plugins::yuml::engine"
  | upload => "tsuml::plugins::yuml::upload"
  | commandLine => "tsuml::cli"

/-- The value of a field. -/
inductive Value where
  | number (value : Nat)
  /-- A text that layouts may put in quotes. -/
  | text (value : String)
  /-- A text that is always shown as it is. -/
  | plain (value : String)
  deriving DecidableEq, Repr

structure Field where
  name : String
  value : Value
  deriving DecidableEq, Repr

/-- A step of the run that encloses others. -/
structure Span where
  level : Level
  target : Target
  name : String
  fields : List Field := []
  deriving DecidableEq, Repr

/-- Something that happened. -/
structure Event where
  level : Level
  target : Target
  message : String
  fields : List Field := []
  deriving DecidableEq, Repr

/-- One entry of the log. -/
inductive Record where
  /-- An event inside the given spans. -/
  | event (event : Event) (spans : List Span)
  /-- The end of a span inside the given others. -/
  | close (span : Span) (outer : List Span)
  deriving DecidableEq, Repr

/-- A record seen from outside one more span. -/
def Record.inside (span : Span) : Record → Record
  | event happened spans => event happened (span :: spans)
  | close ended outer => close ended (span :: outer)

end ClassDiagram.Log
