import ClassDiagram.Delivery.World

/-! Runs of the program. A run leaves lines for its user, among them what it logs, and
goes on with the changed world also after a failure.
-/

namespace ClassDiagram.CommandLine

/-- Why a run of the program ends without doing what was asked. -/
inductive Trouble where
  | failure (cause : Failure)
  /-- The input file cannot be read. -/
  | unreadableFile (path reason : String)
  /-- Standard input is not text. -/
  | inputNotText
  /-- The program broke off because it could not print. -/
  | brokenOff (reason : String)
  deriving DecidableEq, Repr

/-- The reason that bytes are not text. -/
def notText : String := "stream did not contain valid UTF-8"

/-- The text for a trouble. -/
def Trouble.message : Trouble → String
  | failure cause => cause.message
  | unreadableFile path reason => "Failed to read input file '" ++ path ++ "': " ++ reason
  | inputNotText => notText
  | brokenOff reason => "failed printing to stdout: " ++ reason

/-- The exit status after a trouble. -/
def Trouble.exitStatus : Trouble → Nat
  | brokenOff _ => 101
  | _ => 1

/-- What the user reads of a trouble. -/
def Trouble.explanation (trouble : Trouble) : String :=
  match trouble with
  | brokenOff _ => trouble.message
  | _ => "Error: " ++ trouble.message

/-- A line for the user. -/
inductive Line where
  | note (text : String)
  | log (record : Log.Record)

/-- A part of a run. -/
structure Session (α : Type) where
  run : World → List Line × Except Trouble α × World

namespace Session

protected def pure {α : Type} (value : α) : Session α where
  run world := ([], .ok value, world)

protected def bind {α β : Type} (part : Session α) (next : α → Session β) : Session β where
  run world :=
    match part.run world with
    | (lines, .ok value, after) =>
      let (later, result, final) := (next value).run after
      (lines ++ later, result, final)
    | (lines, .error trouble, after) => (lines, .error trouble, after)

instance : Monad Session where
  pure := Session.pure
  bind := Session.bind

/-- Shows a line. -/
def note (text : String) : Session Unit where
  run world := ([.note text], .ok (), world)

/-- Shows a line in verbose runs. -/
def noteIf (verbose : Bool) (text : String) : Session Unit :=
  if verbose then note text else Session.pure ()

def fail {α : Type} (trouble : Trouble) : Session α where
  run world := ([], .error trouble, world)

/-- An action as a part of a run. -/
def ofAction {α : Type} (action : Action α) : Session α where
  run world :=
    let (report, after) := action.run world
    (report.log.map .log, report.result.mapError .failure, after)

/-- A report as a part of a run. -/
def ofReport {α : Type} (report : Report α) : Session α :=
  ofAction (Action.ofReport report)

/-- Prints a text, or breaks off. -/
def print (text : String) : Session Unit where
  run world :=
    match world.print text.toUTF8 with
    | (none, after) => ([], .ok (), after)
    | (some reason, after) => ([], .error (.brokenOff reason), after)

def world : Session World where
  run world := ([], .ok world, world)

end Session

end ClassDiagram.CommandLine
