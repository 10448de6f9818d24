import ClassDiagram.Log.Report

/-! Results of reports, apart from their logs. Taking the result turns the steps of a report
into steps that can only fail, so that what a report computes is settled without its records.
-/

namespace ClassDiagram.Report

variable {α β : Type}

@[simp] theorem result_pure (value : α) : (pure value : Report α).result = .ok value := rfl

@[simp] theorem result_fail (failure : Failure)
    : (fail failure : Report α).result = .error failure := rfl

@[simp] theorem result_tell (event : Log.Event) : (tell event).result = .ok () := rfl

@[simp] theorem result_within (span : Log.Span) (report : Report α)
    : (within span report).result = report.result := rfl

/-- The result of two steps is the second result at the first value, unless the first fails. -/
@[simp] theorem result_bind (report : Report α) (next : α → Report β)
    : (report >>= next).result = (report.result >>= fun value => (next value).result) := by
  change (Report.bind report next).result = _
  cases hr : report.result <;> simp only [Report.bind, hr] <;> rfl

/-- Collecting is running the step on each item until one fails, by induction on the items. -/
@[simp] theorem result_collect (step : α → Report β) (items : List α)
    : (collect step items).result = items.mapM fun item => (step item).result := by
  induction items with
  | nil => rfl
  | cons item rest ih => simp only [collect, result_bind, result_pure, ih, List.mapM_cons]; rfl

end ClassDiagram.Report
