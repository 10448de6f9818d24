import ClassDiagram.Log.Report

/-! Events of reports, apart from the spans around them. A step adds its events after those of the
steps before it, whether it fails or not, and a failure ends the events.
-/

namespace ClassDiagram

/-- The event of a record, if it is not the end of a span. -/
def Log.Record.event? : Log.Record → Option Log.Event
  | event happened _ => some happened
  | close _ _ => none

@[simp] theorem Log.Record.event?_inside (span : Log.Span) (record : Log.Record)
    : (record.inside span).event? = record.event? := by
  cases record <;> rfl

namespace Report

variable {α β : Type}

/-- What happened, in order. -/
def events (report : Report α) : List Log.Event :=
  report.log.filterMap Log.Record.event?

@[simp] theorem events_fail (failure : Failure) : (fail failure : Report α).events = [] := rfl

@[simp] theorem events_tell (event : Log.Event) : (tell event).events = [event] := rfl

/-- A span is no event, and it hides none. -/
@[simp] theorem events_within (span : Log.Span) (report : Report α)
    : (within span report).events = report.events := by
  have closing : [Log.Record.close span []].filterMap Log.Record.event? = [] := rfl
  have inner : (Log.Record.event? ∘ Log.Record.inside span) = Log.Record.event? :=
    funext (Log.Record.event?_inside span)
  rw [events, within, List.filterMap_append, closing, List.append_nil, List.filterMap_map, inner]
  rfl

theorem events_bind_of_ok {report : Report α} {value : α} (succeeded : report.result = .ok value)
    (next : α → Report β)
    : (report >>= next).events = report.events ++ (next value).events := by
  change (Report.bind report next).events = _
  rw [Report.bind, succeeded]
  exact List.filterMap_append

theorem events_bind_of_error {report : Report α} {failure : Failure}
    (failed : report.result = .error failure) (next : α → Report β)
    : (report >>= next).events = report.events := by
  change (Report.bind report next).events = _
  rw [Report.bind, failed]
  rfl

end Report

end ClassDiagram
