import ClassDiagram.Delivery.World
import ClassDiagram.Engine.Kind
import ClassDiagram.Log.Layout
import ClassDiagram.Yuml.Client

/-! What can be asked for on the command line.
-/

namespace ClassDiagram.CommandLine

/-- How a diagram is drawn and delivered. -/
structure GenerateOptions where
  /-- The file to read; standard input when absent or a dash. -/
  input : Option String := none
  engine : EngineKind := .mermaid
  /-- The file to write; standard output when absent. -/
  output : Option String := none
  /-- Whether a published diagram shall not be opened in the viewer. -/
  noOpen : Bool := false
  /-- Whether unresolved symbols are refused. -/
  strict : Bool := false
  yumlUrl : String := Yuml.Client.publicUrl
  deriving DecidableEq, Repr

/-- Where the diagram goes. -/
def GenerateOptions.destination (options : GenerateOptions) : Destination where
  file := options.output
  viewer := !options.noOpen

/-- What to do. -/
inductive Command where
  | generate (options : GenerateOptions)
  | engines (json : Bool)
  deriving DecidableEq, Repr

/-- A whole command line. -/
structure Invocation where
  command : Command
  verbose : Bool := false
  logLevel : Log.Level := .warn
  logFormat : Log.Format := .compact
  deriving DecidableEq, Repr

/-- What help can be asked about. -/
inductive Topic where
  | program
  | generate
  | engines
  | help
  deriving DecidableEq, Repr

/-- Why a command line is not carried out. -/
inductive Refusal where
  | showHelp (topic : Topic)
  | showVersion
  /-- Nothing was asked for. -/
  | nothingGiven
  | missingCommand
  | unknownCommand
  | unknownArgument
  /-- An option was given twice. -/
  | repeatedOption
  /-- A value is missing or not allowed. -/
  | invalidValue
  /-- A value was given to an option that takes none. -/
  | unexpectedValue
  deriving DecidableEq, Repr

/-- The exit status for a refusal: asking for help or the version is no mistake. -/
def Refusal.exitStatus : Refusal → Nat
  | showHelp _ | showVersion => 0
  | _ => 2

end ClassDiagram.CommandLine
