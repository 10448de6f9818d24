import ClassDiagram.CommandLine.Session
import ClassDiagram.Proofs.Delivery.ActionOutcomes

/-! Outcomes of runs of the program, apart from the lines that the user sees. As for actions, an
outcome is a result together with the world that is left.
-/

namespace ClassDiagram.CommandLine.Session

variable {α β : Type}

/-- The result of a part of a run, and the world that it leaves. -/
def outcome (part : Session α) (world : World) : Except Trouble α × World :=
  (part.run world).2

/-- Lines for the user make no difference. -/
@[simp] theorem outcome_noteIf (verbose : Bool) (text : String) (world : World)
    : (noteIf verbose text).outcome world = (.ok (), world) := by
  cases verbose <;> rfl

@[simp] theorem outcome_ofReport (report : Report α) (world : World)
    : (ofReport report).outcome world = (report.result.mapError .failure, world) := rfl

/-- The second of two parts goes on in the world that the first one leaves, unless that fails. -/
theorem outcome_bind (part : Session α) (next : α → Session β) (world : World)
    : (part >>= next).outcome world
      = match part.outcome world with
        | (.ok value, after) => (next value).outcome after
        | (.error trouble, after) => (.error trouble, after) := by
  change outcome (Session.bind part next) world = _
  rcases hr : part.run world with ⟨lines, result, after⟩
  cases result <;> simp only [Session.bind, outcome, hr]

theorem outcome_bind_of_ok {part : Session α} {world after : World} {value : α}
    (succeeds : part.outcome world = (.ok value, after)) (next : α → Session β)
    : (part >>= next).outcome world = (next value).outcome after := by
  rw [outcome_bind, succeeds]

theorem outcome_bind_of_error {part : Session α} {world after : World} {trouble : Trouble}
    (fails : part.outcome world = (.error trouble, after)) (next : α → Session β)
    : (part >>= next).outcome world = (.error trouble, after) := by
  rw [outcome_bind, fails]

end ClassDiagram.CommandLine.Session
