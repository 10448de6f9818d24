import ClassDiagram.Failure
import ClassDiagram.Log.Record

/-! Computations that report on themselves. The log is kept also when the result is a
failure, and nothing computed can depend on it.
-/

namespace ClassDiagram

/-- A result with the records made on the way to it. -/
structure Report (α : Type) where
  log : List Log.Record := []
  result : Except Failure α

namespace Report

protected def pure {α : Type} (value : α) : Report α where
  result := .ok value

protected def bind {α β : Type} (report : Report α) (next : α → Report β) : Report β :=
  match report.result with
  | .ok value =>
    { log := report.log ++ (next value).log, result := (next value).result }
  | .error failure => { log := report.log, result := .error failure }

instance : Monad Report where
  pure := Report.pure
  bind := Report.bind

def fail {α : Type} (failure : Failure) : Report α where
  result := .error failure

def tell (event : Log.Event) : Report Unit where
  log := [.event event []]
  result := .ok ()

/-- Encloses all records in a span, which closes at the end, also after a failure. -/
def within {α : Type} (span : Log.Span) (report : Report α) : Report α where
  log := report.log.map (·.inside span) ++ [.close span []]
  result := report.result

/-- Results of a step for each item in order, up to the first failure. -/
def collect {α β : Type} (step : α → Report β) : List α → Report (List β)
  | [] => pure []
  | item :: rest => do
    let value ← step item
    let values ← collect step rest
    pure (value :: values)

end Report

end ClassDiagram
