import ClassDiagram.CommandLine.Run
import ClassDiagram.Yuml.Url
import Std.Time.Format

/-! The program. What a command line names on this machine is gathered first, then the
command line is carried out on that, and last the machine is brought to where the run
ended. No connection is made, so that no image is ever published or opened.
-/

namespace ClassDiagram

/-- What a path holds; the content of a file is empty unless it is asked for. -/
def nodeAt? (path : String) (withContent : Bool) : IO (Option Files.Node) := do
  let node : Option Files.Node ←
    try
      let _ ← IO.FS.Handle.mk path .readWrite
      pure (some (.file .empty))
    catch
      | .noFileOrDirectory .. => pure none
      | .inappropriateType .. => pure (some .directory)
      | _ => pure (some (.file .empty))
  match node with
  | some (.file _) =>
    if withContent then return some (.file (← IO.FS.readBinFile path))
    else return node
  | _ => return node

/-- Adds to a tree what the names on the way to a path hold. -/
def survey (path : String) (withContent : Bool) (start : Files.Tree) : IO Files.Tree := do
  let mut tree := start
  let mut location := start.start path.toList
  let mut walked := if path.toList.head? == some '/' then "/" else ""
  for piece in Text.split '/' path.toList do
    let name := String.ofList piece
    walked := walked ++ name
    if name = ".." then
      location := location.dropLast
    else if !name.isEmpty && name ≠ "." then
      location := location ++ [name]
      match ← nodeAt? walked withContent with
      | none => return tree
      | some node => tree := tree.put location node
    walked := if walked.isEmpty then walked else walked ++ "/"
  return tree

/-- What a run for the given options can see. -/
def surroundings (options : CommandLine.GenerateOptions) : IO World := do
  let here := toString (← IO.currentDir)
  let names := ((Text.split '/' here.toList).filter (!·.isEmpty)).map String.ofList
  let mut files : Files.Tree := { workingDirectory := names }
  if let some path := options.output then
    files ← survey path false files
  match options.input with
  | some path =>
    if path ≠ "-" then
      return { files := ← survey path true files, web := Yuml.Url.offline }
  | none => pure ()
  return { files, web := Yuml.Url.offline, standardInput := ← (← IO.getStdin).readBinToEnd }

/-- Writes the file that a run has changed. -/
def keep (before after : Files.Tree) (path : String) : IO Unit :=
  match after.read path, before.read path with
  | .ok content, .ok old =>
    unless content.data == old.data do
      IO.FS.writeBinFile path content
  | .ok content, .error _ => IO.FS.writeBinFile path content
  | .error _, _ => pure ()

/-- The time of day, as it is shown with log records. -/
def timeNow : IO String := do
  let now ← Std.Time.Timestamp.now
  return (Std.Time.DateTime.ofTimestamp now .UTC).format "uuuu-MM-dd'T'HH:mm:ss.SSSSSS'Z'"

end ClassDiagram

open ClassDiagram in
/-- Runs the program for the words of a command line. -/
def main (words : List String) : IO UInt32 := do
  let texts : CommandLine.LogTexts :=
    {
      level := ← IO.getEnv "TSUML_LOG_LEVEL"
      format := ← IO.getEnv "TSUML_LOG_FORMAT"
      general := ← IO.getEnv "RUST_LOG"
    }
  let options : Option CommandLine.GenerateOptions :=
    match CommandLine.parse words with
    | .ok { command := .generate options, .. } => some options
    | _ => none
  let start ← options.elim (pure {}) surroundings
  let time ← timeNow
  let outcome := CommandLine.perform words texts time start
  if let some path := options.bind (·.output) then
    keep start.files outcome.world.files path
  for line in outcome.lines do
    IO.eprintln (line.render time)
  let output ← IO.getStdout
  output.write outcome.world.printed
  output.flush
  return outcome.exitStatus.toUInt32
