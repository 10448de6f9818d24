import ClassDiagram.Delivery.Web
import ClassDiagram.Files.Tree
import ClassDiagram.Log.Report

/-! What a run can see and change: files, standard input and output, the web, and a viewer for
images. An action goes through the world and keeps what it did there also when it fails.
-/

namespace ClassDiagram

/-- Where a diagram goes. -/
structure Destination where
  /-- The file to write; standard output when absent. -/
  file : Option String := none
  /-- Whether the image of a published diagram is opened in a viewer as well. -/
  viewer : Bool := false
  deriving DecidableEq, Repr

/-- A fault of standard output. Some of the bytes may have arrived before it. -/
structure OutputFault where
  arrived : Nat
  reason : String

/-- The surroundings of a run. -/
structure World where
  files : Files.Tree := {}
  web : Web := fun _ => .unsent "no connection"
  standardInput : ByteArray := .empty
  /-- The bytes that arrived on standard output. -/
  printed : ByteArray := .empty
  /-- The fault that is met when more bytes are printed after those that arrived. -/
  outputFault? : (printed more : ByteArray) → Option OutputFault := fun _ _ => none
  /-- Why a URL cannot be opened in the viewer. -/
  viewerFault? : String → Option String := fun _ => none
  /-- The requests that services received, in order. -/
  requests : List Request := []
  /-- The URLs that were opened in the viewer, in order. -/
  opened : List String := []

/-- Standard output takes whatever is printed. -/
def World.PrintsAll (world : World) : Prop :=
  ∀ printed more, world.outputFault? printed more = none

/-- Prints bytes as far as they arrive; the reason tells why not all of them did. -/
def World.print (world : World) (bytes : ByteArray) : Option String × World :=
  match world.outputFault? world.printed bytes with
  | none => (none, { world with printed := world.printed ++ bytes })
  | some fault =>
    (some fault.reason,
      { world with printed := world.printed ++ bytes.extract 0 fault.arrived })

/-- A computation that changes the world and reports on itself. -/
structure Action (α : Type) where
  run : World → Report α × World

namespace Action

protected def pure {α : Type} (value : α) : Action α where
  run world := (Report.pure value, world)

protected def bind {α β : Type} (action : Action α) (next : α → Action β) : Action β where
  run world :=
    let (report, after) := action.run world
    match report.result with
    | .ok value =>
      let (later, final) := (next value).run after
      ({ log := report.log ++ later.log, result := later.result }, final)
    | .error failure => ({ log := report.log, result := .error failure }, after)

instance : Monad Action where
  pure := Action.pure
  bind := Action.bind

/-- An action that changes nothing. -/
def ofReport {α : Type} (report : Report α) : Action α where
  run world := (report, world)

def tell (event : Log.Event) : Action Unit :=
  ofReport (Report.tell event)

def fail {α : Type} (failure : Failure) : Action α :=
  ofReport (Report.fail failure)

/-- Encloses the records of an action in a span. -/
def within {α : Type} (span : Log.Span) (action : Action α) : Action α where
  run world :=
    let (report, after) := action.run world
    (report.within span, after)

/-- Prints a text; when that fails, the beginning of the text may have arrived. -/
def print (text : String) : Action Unit where
  run world :=
    match world.print text.toUTF8 with
    | (none, after) => (Report.pure (), after)
    | (some reason, after) => (Report.fail (.sinkFailure "stdout" reason), after)

/-- Writes a text to the file that a path names. -/
def writeFile (path text : String) : Action Unit where
  run world :=
    match world.files.write path text.toUTF8 with
    | .ok files => (Report.pure (), { world with files })
    | .error fault =>
      (Report.fail
        (.sinkFailure "file" ("failed to write '" ++ path ++ "': " ++ fault.message)), world)

/-- Makes a request and tells what became of it. -/
def send (request : Request) : Action Exchange where
  run world :=
    let exchange := world.web request
    (Report.pure exchange, { world with requests := world.requests ++ exchange.received request })

/-- Opens a URL in the viewer. -/
def openViewer (url : String) : Action Unit where
  run world :=
    match world.viewerFault? url with
    | none => (Report.pure (), { world with opened := world.opened ++ [url] })
    | some reason =>
      (Report.fail (.sinkFailure "viewer" ("failed to open " ++ url ++ ": " ++ reason)), world)

end Action

end ClassDiagram
