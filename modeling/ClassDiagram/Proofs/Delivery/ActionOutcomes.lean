import ClassDiagram.Delivery.World
import ClassDiagram.Proofs.Log.ReportResults

/-! Outcomes of actions, apart from their logs. An outcome is the result of an action together with
the world it leaves, so that what an action does is settled without its records.
-/

namespace ClassDiagram

/-- The world after services received more requests. -/
def World.receiving (world : World) (requests : List Request) : World :=
  { world with requests := world.requests ++ requests }

namespace Action

variable {α β : Type}

/-- The result of an action in a world, and the world that it leaves. -/
def outcome (action : Action α) (world : World) : Except Failure α × World :=
  ((action.run world).1.result, (action.run world).2)

@[simp] theorem outcome_ofReport (report : Report α) (world : World)
    : (ofReport report).outcome world = (report.result, world) := rfl

@[simp] theorem outcome_tell (event : Log.Event) (world : World)
    : (tell event).outcome world = (.ok (), world) := rfl

@[simp] theorem outcome_within (span : Log.Span) (action : Action α) (world : World)
    : (within span action).outcome world = action.outcome world := rfl

/-- All of a text is printed, or a part of it before standard output fails. -/
theorem outcome_print (text : String) (world : World)
    : (print text).outcome world
      = match world.outputFault? world.printed text.toUTF8 with
        | none => (.ok (), { world with printed := world.printed ++ text.toUTF8 })
        | some fault =>
          (.error (.sinkFailure "stdout" fault.reason),
            { world with printed := world.printed ++ text.toUTF8.extract 0 fault.arrived }) := by
  cases hf : world.outputFault? world.printed text.toUTF8 <;>
    simp only [outcome, print, World.print, hf] <;> rfl

/-- The web decides what becomes of a request, and who receives it. -/
@[simp] theorem outcome_send (request : Request) (world : World)
    : (send request).outcome world
      = (.ok (world.web request), world.receiving ((world.web request).received request)) := rfl

theorem outcome_openViewer (url : String) (world : World)
    : (openViewer url).outcome world
      = match world.viewerFault? url with
        | none => (.ok (), { world with opened := world.opened ++ [url] })
        | some reason =>
          (.error (.sinkFailure "viewer" ("failed to open " ++ url ++ ": " ++ reason)), world)
    := by
  cases hf : world.viewerFault? url <;> simp only [outcome, openViewer, hf] <;> rfl

/-- The second of two actions goes on in the world that the first one leaves, unless that fails. -/
theorem outcome_bind (action : Action α) (next : α → Action β) (world : World)
    : (action >>= next).outcome world
      = match action.outcome world with
        | (.ok value, after) => (next value).outcome after
        | (.error failure, after) => (.error failure, after) := by
  change outcome (Action.bind action next) world = _
  cases hr : (action.run world).1.result <;> simp only [Action.bind, outcome, hr]

theorem outcome_bind_of_ok {action : Action α} {world after : World} {value : α}
    (succeeds : action.outcome world = (.ok value, after)) (next : α → Action β)
    : (action >>= next).outcome world = (next value).outcome after := by
  rw [outcome_bind, succeeds]

theorem outcome_bind_of_error {action : Action α} {world after : World} {failure : Failure}
    (fails : action.outcome world = (.error failure, after)) (next : α → Action β)
    : (action >>= next).outcome world = (.error failure, after) := by
  rw [outcome_bind, fails]

/-- Only the outcomes of what follows an action matter. -/
theorem outcome_bind_congr {next other : α → Action β}
    (same : ∀ value world, (next value).outcome world = (other value).outcome world)
    (action : Action α) (world : World)
    : (action >>= next).outcome world = (action >>= other).outcome world := by
  simp only [outcome_bind, same]

/-- Telling of something at the end makes no difference. -/
theorem outcome_bind_tell (action : Action Unit) (event : Log.Event) (world : World)
    : (action >>= fun _ => tell event).outcome world = action.outcome world := by
  rcases hr : action.outcome world with ⟨result, after⟩
  cases result with
  | ok _ => rw [outcome_bind_of_ok hr, outcome_tell]
  | error failure => rw [outcome_bind_of_error hr]

/-- Telling of something first makes no difference. -/
theorem outcome_tell_bind (event : Log.Event) (next : Unit → Action β) (world : World)
    : (tell event >>= next).outcome world = (next ()).outcome world :=
  outcome_bind_of_ok (outcome_tell event world) next

end Action

end ClassDiagram
