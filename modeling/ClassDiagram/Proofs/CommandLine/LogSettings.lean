import ClassDiagram.Proofs.CommandLine.GenerateOutcome

/-! Runs that differ in what they tell. Whether a run is verbose, what is logged of it, and how that
is shown decide its lines for the user and nothing else: two runs are followed side by side, and at
each step only the lines come apart.
-/

namespace ClassDiagram.CommandLine

-----------------------------------------------------------------------------------------
-- Runs side by side
-----------------------------------------------------------------------------------------

namespace Session

variable {α β : Type}

/-- Two parts of a run that differ at most in their lines. -/
def Alike (part other : Session α) : Prop :=
  ∀ world, part.outcome world = other.outcome world

theorem Alike.refl (part : Session α) : Alike part part :=
  fun _ => rfl

theorem Alike.noteIf (verbose other : Bool) (text : String)
    : Alike (noteIf verbose text) (noteIf other text) := by
  intro world
  rw [outcome_noteIf, outcome_noteIf]

/-- Parts stay alike where they go on alike with every value. -/
theorem Alike.bind {part other : Session α} {next otherNext : α → Session β}
    (first : Alike part other) (later : ∀ value, Alike (next value) (otherNext value))
    : Alike (part >>= next) (other >>= otherNext) := by
  intro world
  rw [outcome_bind, outcome_bind, first world]
  rcases other.outcome world with ⟨result, after⟩
  cases result with
  | ok value => exact later value after
  | error trouble => rfl

end Session

open Session

-----------------------------------------------------------------------------------------
-- Commands
-----------------------------------------------------------------------------------------

/-- The notes of a verbose run stand between its steps and change none of them. -/
theorem alike_generate (options : GenerateOptions) (verbose other : Bool)
    : Alike (generate options verbose) (generate options other) := by
  rw [generate, generate]
  apply (Alike.refl _).bind
  intro generator
  apply (Alike.refl _).bind
  intro world
  cases readDump world options.input with
  | error trouble =>
      -- What would follow is never reached
      exact fun _ => rfl
  | ok dump =>
      apply (Alike.refl _).bind
      intro dump
      apply (Alike.refl _).bind
      intro _
      apply (Alike.noteIf verbose other _).bind
      intro _
      apply (Alike.refl _).bind
      intro _
      exact Alike.noteIf verbose other _

theorem Command.alike_session (command : Command) (verbose other : Bool)
    : Alike (command.session verbose) (command.session other) := by
  cases command with
  | generate options => exact alike_generate options verbose other
  | engines json => exact Alike.refl _

/-- Two command lines that ask for the same command end with the same exit status and leave the same
printed text, files, requests and opened images, whatever they and the environment say about
logging. Witness: the commands are carried out alike, and logging is set up beside them.
-/
theorem log_settings_decide_only_lines {words otherWords : List String}
    {invocation other : Invocation} (parsed : parse words = .ok invocation)
    (otherParsed : parse otherWords = .ok other) (same : other.command = invocation.command)
    (texts otherTexts : LogTexts) (time otherTime : String) (world : World)
    : let ended := perform words texts time world
      let otherEnded := perform otherWords otherTexts otherTime world
      otherEnded.exitStatus = ended.exitStatus
      ∧ otherEnded.world.printed = ended.world.printed
      ∧ otherEnded.world.files = ended.world.files
      ∧ otherEnded.world.requests = ended.world.requests
      ∧ otherEnded.world.opened = ended.world.opened := by
  intro ended otherEnded
  obtain ⟨status, left⟩ := perform_of_parse parsed texts time world
  obtain ⟨otherStatus, otherLeft⟩ := perform_of_parse otherParsed otherTexts otherTime world
  have alike := invocation.command.alike_session other.verbose invocation.verbose world
  rw [same, alike] at otherStatus otherLeft
  have world : otherEnded.world = ended.world := otherLeft.trans left.symm
  exact ⟨
    otherStatus.trans status.symm,
    congrArg World.printed world,
    congrArg World.files world,
    congrArg World.requests world,
    congrArg World.opened world
  ⟩

/-- A run that logs nothing and one that notes what it does, and warns of a format that does not
exist, draw the same diagram.
-/
theorem quiet_and_noted_runs_draw_alike
    : let dump : ByteArray :=
        "\x7b\"files\":[\x7b\"classes\":[\x7b\"symbol\":\"A\"\x7d]\x7d]\x7d".toUTF8
      let world : World := { standardInput := dump }
      let quiet := perform ["generate"] { level := some "off" } "" world
      let words := ["-v", "--log-level=trace", "generate"]
      let noted := perform words { format := some "none" } "" world
      quiet.lines.length = 0
      ∧ noted.lines.length = 4
      ∧ noted.exitStatus = quiet.exitStatus
      ∧ noted.world.printed = quiet.world.printed
      ∧ quiet.world.printed = "classDiagram\nclass A \x7b\n\x7d\n".toUTF8 := by
  intro dump world quiet words noted
  have quietLines : quiet.lines.length = 0 := by decide +kernel +revert
  have notedLines : noted.lines.length = 4 := by
    clear quietLines
    decide +kernel +revert
  have drawn : quiet.world.printed = "classDiagram\nclass A \x7b\n\x7d\n".toUTF8 := by
    clear quietLines notedLines
    decide +kernel +revert
  have parsed : parse ["generate"] = .ok { command := .generate {} } := by rfl
  have notedParsed : parse words
      = .ok { command := .generate {}, verbose := true, logLevel := .trace } := by decide +kernel
  obtain ⟨status, printed, -⟩ := log_settings_decide_only_lines parsed notedParsed rfl
    { level := some "off" } { format := some "none" } "" "" world
  exact ⟨quietLines, notedLines, status, printed, drawn⟩

end ClassDiagram.CommandLine
