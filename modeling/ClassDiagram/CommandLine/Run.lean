import ClassDiagram.CommandLine.Parse
import ClassDiagram.CommandLine.Session
import ClassDiagram.CommandLine.Usage
import ClassDiagram.Declaration.Format
import ClassDiagram.Generator
import ClassDiagram.Log.Setup

/-! Carrying out command lines. What is logged, and how, decides only which lines the user
sees.
-/

namespace ClassDiagram.CommandLine

/-- The name and version of the program. -/
def version : String := "tsuml v0.1.0"

/-- The generator that `generate` works with: the built-in engines, yUML with the given service. -/
def generatorOf (engine : EngineKind) (strict : Bool) (yumlUrl : String) : Report Generator := do
  let builtin ← Registry.builtin
  let registry ← builtin.register (Yuml.engine (.ofUrl yumlUrl))
  let registry ← registry.select engine.text
  pure { registry, policy := if strict then .reject else .drop }

/-- The text of the input: of a file, or of standard input if no file or a dash is given. -/
def readInput (world : World) : Option String → Except Trouble String
  | none => fromStandardInput
  | some path =>
    if path = "-" then
      fromStandardInput
    else
      match world.files.read path with
      | .error fault => .error (.unreadableFile path fault.message)
      | .ok content =>
        match String.fromUTF8? content with
        | some text => .ok text
        | none => .error (.unreadableFile path notText)
where
  fromStandardInput : Except Trouble String :=
    match String.fromUTF8? world.standardInput with
    | some text => .ok text
    | none => .error .inputNotText

/-- The declarations of the input. -/
def readDump (world : World) (input : Option String) : Except Trouble Declaration.Dump := do
  let text ← readInput world input
  (Declaration.Dump.parse text).mapError .failure

def generate (options : GenerateOptions) (verbose : Bool) : Session Unit := do
  let generator ← Session.ofReport (generatorOf options.engine options.strict options.yumlUrl)
  let world ← Session.world
  let dump ←
    match readDump world options.input with
    | .ok dump => Session.pure dump
    | .error trouble => Session.fail trouble
  Session.ofReport <|
    Report.tell
      {
        level := .debug
        target := .commandLine
        message := "Read declaration dump"
        fields := [⟨"declarations", .number dump.count⟩, ⟨"files", .number dump.files.length⟩]
      }
  Session.noteIf verbose
    ("Read " ++ toString dump.count ++ " declarations from " ++ toString dump.files.length
      ++ " files")
  Session.ofAction (generator.run dump options.destination)
  Session.noteIf verbose "Diagram generated"

def enginesText (names : List String) (active : String) : String :=
  "Available engines:\n"
    ++ Text.concat (names.map fun name =>
      "  " ++ name ++ (if name = active then " (default)" else "") ++ "\n")

def enginesJson (names : List String) (active : String) : String :=
  (Json.object [("engines", .list (names.map .text)), ("default", .text active)]).pretty ++ "\n"

def engines (json : Bool) : Session Unit := do
  let registry ← Session.ofReport Registry.builtin
  let active := (registry.selection.map Selection.name).getD ""
  let list := if json then enginesJson else enginesText
  Session.print (list registry.names active)

/-- Does what a command asks for. -/
def Command.session (verbose : Bool) : Command → Session Unit
  | .generate options => CommandLine.generate options verbose
  | .engines json => CommandLine.engines json

/-- The texts in the environment that decide what is logged. -/
structure LogTexts where
  level : Option String := none
  format : Option String := none
  /-- A filter for programs in general. -/
  general : Option String := none

/-- Sets up logging: the environment goes before the command line. -/
def Invocation.setup (invocation : Invocation) (texts : LogTexts)
    : Except Log.SetupFault Log.Setup :=
  Log.Setup.ofTexts false
    ((texts.level.or texts.general).getD invocation.logLevel.text.toLower)
    (texts.format.getD invocation.logFormat.text) texts.general

/-- A line as the user sees it. -/
inductive Shown where
  | text (text : String)
  /-- The members of a log record, but for the time. -/
  | json (members : List (String × Json))

/-- The characters of a line; `time` stands for the time of a log record. -/
def Shown.render (time : String) : Shown → String
  | text shown => shown
  | json members => (Json.object (("timestamp", .text time) :: members)).render

/-- What the user sees of a line; `time` stands for the time of a log record. -/
def Line.shown? (setup : Except Log.SetupFault Log.Setup) (time : String) : Line → Option Shown
  | note text => some (.text text)
  | log record =>
    match setup with
    | .error _ => none
    | .ok setup =>
      (setup.filter.seen? record).bind fun record =>
        match setup.format with
        | .json => some (.json record.members)
        | .compact | .pretty => (record.compact? time).map .text

/-- What a run of the program leaves. -/
structure Outcome where
  exitStatus : Nat
  /-- The lines for the user, on standard error. -/
  lines : List Shown
  world : World

/-- The line for a trouble at the end of a run. -/
def troubleLines : Except Trouble Unit → List Line
  | .ok () => []
  | .error trouble => [.note trouble.explanation]

/-- The exit status at the end of a run. -/
def exitStatusOf : Except Trouble Unit → Nat
  | .ok () => 0
  | .error trouble => trouble.exitStatus

def setupLines : Except Log.SetupFault Log.Setup → List Line
  | .ok _ => []
  | .error fault => [.note ("Warning: Failed to initialize logging: " ++ fault.message)]

/-- Carries out a command line. -/
def Invocation.perform (invocation : Invocation) (texts : LogTexts) (time : String) (world : World)
    : Outcome :=
  let setup := invocation.setup texts
  let session : Session Unit := do
    Session.noteIf invocation.verbose version
    invocation.command.session invocation.verbose
  let (lines, result, after) := session.run world
  {
    exitStatus := exitStatusOf result
    lines := (setupLines setup ++ lines ++ troubleLines result).filterMap (·.shown? setup time)
    world := after
  }

/-- Reads a command line and carries it out. -/
def perform (words : List String) (texts : LogTexts) (time : String) (world : World) : Outcome :=
  match parse words with
  | .ok invocation => invocation.perform texts time world
  | .error refusal =>
    {
      exitStatus := refusal.exitStatus
      lines := refusal.explanation.toList.map .text
      world := (world.print refusal.printed.toUTF8).2
    }

end ClassDiagram.CommandLine
