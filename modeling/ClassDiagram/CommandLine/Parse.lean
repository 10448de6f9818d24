import ClassDiagram.CommandLine.Options

/-! The command line: options for the whole program, a command, and options of the
command. No option may be given twice, and none of the main options after the command.
-/

namespace ClassDiagram.CommandLine

/-- Sets what was not set before. -/
def setOnce {α : Type} (before : Option α) (value : α) : Except Refusal (Option α) :=
  if before.isSome then .error .repeatedOption else .ok (some value)

/-- Sets what was not set before to the one of some named values that a text names. -/
def setChoice {α : Type} (before : Option α) (choices : List α) (text : α → String) (value : String)
    : Except Refusal (Option α) := do
  if before.isSome then
    .error .repeatedOption
  else
    match choices.find? fun choice => text choice == value with
    | some choice => .ok (some choice)
    | none => .error .invalidValue

/-- Sets what was not set before to a path, which may not be empty. -/
def setPath (before : Option String) (value : String) : Except Refusal (Option String) := do
  if before.isSome then .error .repeatedOption
  else if value.isEmpty then .error .invalidValue
  else .ok (some value)

/-! ## Options of the whole program -/

/-- The options before the command. -/
inductive MainOption where
  | verbose
  | logLevel
  | logFormat
  | help
  | version
  deriving DecidableEq, Repr

/-- What the options before the command have set. -/
structure MainGiven where
  verbose : Option Unit := none
  logLevel : Option Log.Level := none
  logFormat : Option Log.Format := none
  deriving DecidableEq, Repr

/-- The first level of the command line. -/
def mainLevel : Level MainOption MainGiven where
  long
    | "verbose" => some .verbose
    | "log-level" => some .logLevel
    | "log-format" => some .logFormat
    | "help" => some .help
    | "version" => some .version
    | _ => none
  short
    | 'v' => some .verbose
    | 'h' => some .help
    | 'V' => some .version
    | _ => none
  takesValue
    | .logLevel | .logFormat => true
    | .verbose | .help | .version => false
  raise option given :=
    match option with
    | .verbose => do return { given with verbose := ← setOnce given.verbose () }
    | .help => .error (.showHelp .program)
    | .version => .error .showVersion
    | .logLevel | .logFormat => .error .invalidValue
  assign option value given :=
    match option with
    | .logLevel => do
      let logLevel ← setChoice given.logLevel Log.Level.all (·.text.toLower) value
      return { given with logLevel }
    | .logFormat => do
      let logFormat ← setChoice given.logFormat Log.Format.all Log.Format.text value
      return { given with logFormat }
    | .verbose | .help | .version => .error .unexpectedValue
  commands := ["generate", "engines", "help"]
  strayWord := .unknownCommand

/-! ## Options of `generate` -/

/-- The options of `generate`. -/
inductive GenerateOption where
  | input
  | engine
  | output
  | noOpen
  | strict
  | yumlUrl
  | help
  deriving DecidableEq, Repr

structure GenerateGiven where
  input : Option String := none
  engine : Option EngineKind := none
  output : Option String := none
  noOpen : Option Unit := none
  strict : Option Unit := none
  yumlUrl : Option String := none
  deriving DecidableEq, Repr

def generateLevel : Level GenerateOption GenerateGiven where
  long
    | "input" => some .input
    | "type" => some .engine
    | "output" => some .output
    | "no-open" => some .noOpen
    | "strict" => some .strict
    | "yuml-url" => some .yumlUrl
    | "help" => some .help
    | _ => none
  short
    | 'i' => some .input
    | 't' => some .engine
    | 'o' => some .output
    | 'h' => some .help
    | _ => none
  takesValue
    | .input | .engine | .output | .yumlUrl => true
    | .noOpen | .strict | .help => false
  raise option given :=
    match option with
    | .noOpen => do return { given with noOpen := ← setOnce given.noOpen () }
    | .strict => do return { given with strict := ← setOnce given.strict () }
    | .help => .error (.showHelp .generate)
    | .input | .engine | .output | .yumlUrl => .error .invalidValue
  assign option value given :=
    match option with
    | .input => do return { given with input := ← setPath given.input value }
    | .engine => do
      let engine ← setChoice given.engine EngineKind.all EngineKind.text value
      return { given with engine }
    | .output => do return { given with output := ← setPath given.output value }
    | .yumlUrl => do return { given with yumlUrl := ← setOnce given.yumlUrl value }
    | .noOpen | .strict | .help => .error .unexpectedValue
  commands := []
  strayWord := .unknownArgument

/-- The options of `generate`, with the usual value for each one that was not set. -/
def GenerateGiven.options (given : GenerateGiven) : GenerateOptions :=
  let usual : GenerateOptions := {}
  {
    input := given.input
    engine := given.engine.getD usual.engine
    output := given.output
    noOpen := given.noOpen.isSome
    strict := given.strict.isSome
    yumlUrl := given.yumlUrl.getD usual.yumlUrl
  }

/-! ## Options of `engines` -/

inductive EnginesOption where
  | json
  | help
  deriving DecidableEq, Repr

def enginesLevel : Level EnginesOption (Option Unit) where
  long
    | "json" => some .json
    | "help" => some .help
    | _ => none
  short
    | 'h' => some .help
    | _ => none
  takesValue _ := false
  raise option given :=
    match option with
    | .json => setOnce given ()
    | .help => .error (.showHelp .engines)
  assign _ _ _ := .error .unexpectedValue
  commands := []
  strayWord := .unknownArgument

/-! ## The whole command line -/

/-- Reads the words of a level that none follows. -/
def readLast {ι σ : Type} (level : Level ι σ) (start : σ) (words : List String)
    : Except Refusal σ := do
  let (progress, _) ← level.readWords { known := start } words
  progress.settle level

/-- What the words after `help` lead to: one may name a command, and none may follow. -/
def helpAbout : List String → Refusal
  | [] => .showHelp .program
  | ["generate"] => .showHelp .generate
  | ["engines"] => .showHelp .engines
  | ["help"] => .showHelp .help
  | _ => .unknownCommand

/-- Reads the words after a command. -/
def readCommand (name : String) (words : List String) : Except Refusal Command :=
  if name = "generate" then
    (readLast generateLevel {} words).map fun given => .generate given.options
  else if name = "engines" then
    (readLast enginesLevel none words).map fun given => .engines given.isSome
  else
    .error (helpAbout words)

/-- Reads a command line, without the name of the program. -/
def parse (words : List String) : Except Refusal Invocation := do
  let (progress, rest) ← mainLevel.readWords { known := {} } words
  match rest with
  | none =>
    let given ← progress.settle mainLevel
    .error (if given = {} then .nothingGiven else .missingCommand)
  | some (name, words) =>
    let command ← readCommand name words
    let given ← progress.settle mainLevel
    pure
      {
        command
        verbose := given.verbose.isSome
        logLevel := given.logLevel.getD .warn
        logFormat := given.logFormat.getD .compact
      }

end ClassDiagram.CommandLine
