import ClassDiagram.Proofs.Delivery.DeliveredTexts

/-! Standard input is not looked at once the declarations are known. Whatever it holds then is still
there after the diagram is delivered, and it changes nothing else.
-/

namespace ClassDiagram

/-- The same surroundings with something else on standard input. -/
def World.withInput (world : World) (input : ByteArray) : World :=
  { world with standardInput := input }

namespace Action

variable {α β : Type}

/-- With something else on standard input the action does the same and leaves that there. -/
def IgnoresInput (action : Action α) : Prop :=
  ∀ world input,
    action.outcome (world.withInput input)
    = ((action.outcome world).1, (action.outcome world).2.withInput input)

theorem IgnoresInput.ofReport (report : Report α) : IgnoresInput (ofReport report) :=
  fun _ _ => rfl

theorem IgnoresInput.print (text : String) : IgnoresInput (print text) := by
  intro world input
  rw [outcome_print, outcome_print]
  cases hf : world.outputFault? world.printed text.toUTF8 <;> simp only [World.withInput, hf]

theorem IgnoresInput.writeFile (path text : String) : IgnoresInput (writeFile path text) := by
  intro world input
  cases hw : world.files.write path text.toUTF8 with
  | error fault => simp only [outcome, Action.writeFile, World.withInput, hw]
  | ok files => simp only [outcome, Action.writeFile, World.withInput, hw]

theorem IgnoresInput.send (request : Request) : IgnoresInput (send request) :=
  fun _ _ => rfl

theorem IgnoresInput.openViewer (url : String) : IgnoresInput (openViewer url) := by
  intro world input
  rw [outcome_openViewer, outcome_openViewer]
  cases hf : world.viewerFault? url <;> simp only [World.withInput, hf]

theorem IgnoresInput.bind {action : Action α} {next : α → Action β} (first : IgnoresInput action)
    (later : ∀ value, IgnoresInput (next value))
    : IgnoresInput (action >>= next) := by
  intro world input
  rw [outcome_bind, outcome_bind, first world input]
  rcases action.outcome world with ⟨result, after⟩
  cases result with
  | ok value => exact later value after input
  | error failure => rfl

end Action

open ClassDiagram.Action

-----------------------------------------------------------------------------------------
-- Delivering
-----------------------------------------------------------------------------------------

end ClassDiagram
