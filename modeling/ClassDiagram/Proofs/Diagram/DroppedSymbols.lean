import ClassDiagram.Proofs.Diagram.BuildOutcome
import ClassDiagram.Proofs.Diagram.PushedEntries
import ClassDiagram.Proofs.Log.ReportEvents
import Mathlib.Data.List.TakeWhile

/-! No unresolved symbol is left out in silence. Each step of building tells of what it leaves out
of its part of the visit, in order and up to the first failure.
-/

namespace ClassDiagram.Declaration

variable {α β : Type} {policy : Policy}

-----------------------------------------------------------------------------------------
-- Events about symbols that are left out
-----------------------------------------------------------------------------------------

/-- The events that tell of a symbol that is left out. -/
def dropped (report : Report α) : List Log.Event :=
  report.events.filter (·.message = "Dropping unresolved symbol")

/-- The event about a place that is left out. -/
def Mention.dropping (mention : Mention) : Log.Event where
  level := .debug
  target := .declarations
  message := "Dropping unresolved symbol"
  fields := [⟨"owner", .text mention.owner⟩, ⟨"kind", .plain mention.kind.text⟩]

/-- The places without a name that come before the first offending place of a visit. -/
def leftOut (policy : Policy) (visit : List Mention) : List Mention :=
  (visit.takeWhile fun mention => !mention.offends policy).filter (·.symbol.isNone)

/-- A report tells of what is left out of a visit, and of nothing else that is left out. -/
def Notes (policy : Policy) (visit : List Mention) (report : Report α) : Prop :=
  dropped report = (leftOut policy visit).map Mention.dropping

-----------------------------------------------------------------------------------------
-- What is left out of a visit
-----------------------------------------------------------------------------------------

theorem not_offends_of_eq_none {visit : List Mention} (accepted : firstFailure policy visit = none)
    : ∀ mention ∈ visit, (!mention.offends policy) = true := by
  intro mention member
  rw [firstFailure_eq_none_iff.mp accepted mention member]
  rfl

/-- Where nothing offends, everything without a name is left out. -/
theorem leftOut_of_eq_none {visit : List Mention} (accepted : firstFailure policy visit = none)
    : leftOut policy visit = visit.filter (·.symbol.isNone) := by
  rw [leftOut, List.takeWhile_eq_self_iff.mpr (not_offends_of_eq_none accepted)]

/-- Where nothing offends, what is left out goes on with the next part of the visit. -/
theorem leftOut_append_of_eq_none {first : List Mention}
    (accepted : firstFailure policy first = none) (second : List Mention)
    : leftOut policy (first ++ second) = leftOut policy first ++ leftOut policy second := by
  rw [leftOut_of_eq_none accepted, leftOut,
    List.takeWhile_append_of_pos (not_offends_of_eq_none accepted), List.filter_append]
  rfl

/-- An offending place ends what is left out, by induction on the visit before it. -/
theorem leftOut_append_of_eq_some {first : List Mention} {failure : Failure}
    (failed : firstFailure policy first = some failure) (second : List Mention)
    : leftOut policy (first ++ second) = leftOut policy first := by
  induction first with
  | nil => cases failed
  | cons mention rest ih =>
      cases offends : mention.offends policy with
      | true => simp [leftOut, offends]
      | false =>
          have later : firstFailure policy rest = some failure := by
            simpa [firstFailure, offends] using failed
          have tail := ih later
          simp only [leftOut] at tail
          simp [leftOut, offends, List.filter_cons, tail]

theorem leftOut_append_congr (first : List Mention) {second other : List Mention}
    (same : leftOut policy second = leftOut policy other)
    : leftOut policy (first ++ second) = leftOut policy (first ++ other) := by
  cases hf : firstFailure policy first with
  | none => rw [leftOut_append_of_eq_none hf, leftOut_append_of_eq_none hf, same]
  | some failure => rw [leftOut_append_of_eq_some hf, leftOut_append_of_eq_some hf]

/-- A place with a name is not left out, and it ends nothing. -/
theorem leftOut_cons_of_isSome {mention : Mention} (named : mention.symbol.isSome)
    (visit : List Mention)
    : leftOut policy (mention :: visit) = leftOut policy visit := by
  have known : mention.symbol.isNone = false := by simpa using named
  have fine : mention.offends policy = false := by rw [Mention.offends, known, Bool.false_and]
  simp [leftOut, fine, known]

/-- Places with names make no difference in a visit, by induction on the items visited. -/
theorem leftOut_flatMap_cons {items : List α} {head : α → Mention} (tail : α → List Mention)
    (named : ∀ item ∈ items, (head item).symbol.isSome)
    : leftOut policy (items.flatMap fun item => head item :: tail item)
      = leftOut policy (items.flatMap tail) := by
  induction items with
  | nil => rfl
  | cons item rest ih =>
      have later := ih fun other member => named other (List.mem_cons_of_mem item member)
      rw [List.flatMap_cons, List.flatMap_cons, List.cons_append,
        leftOut_cons_of_isSome (named item List.mem_cons_self)]
      exact leftOut_append_congr (tail item) later

/-- Under rejection nothing is left out: what has no name offends. -/
theorem leftOut_reject (visit : List Mention) : leftOut .reject visit = [] := by
  rw [leftOut, List.filter_eq_nil_iff]
  intro mention member
  have fine := List.mem_takeWhile_imp member
  simpa [Mention.offends, Option.isSome_iff_ne_none] using fine

-----------------------------------------------------------------------------------------
-- Steps that tell of what they leave out
-----------------------------------------------------------------------------------------

@[simp] theorem dropped_pure (value : α) : dropped (pure value : Report α) = [] := rfl

@[simp] theorem dropped_within (span : Log.Span) (report : Report α)
    : dropped (Report.within span report) = dropped report := by
  rw [dropped, Report.events_within, dropped]

/-- An event with another message is not about anything left out. -/
theorem dropped_tell_of_ne {event : Log.Event}
    (other : event.message ≠ "Dropping unresolved symbol")
    : dropped (Report.tell event) = [] := by
  simp [dropped, other]

/-- A step after another goes on with the visit. -/
theorem Notes.bind {report : Report α} {next : α → Report β} {first second : List Mention}
    {value : α} (result : report.result = outcome policy first value)
    (hf : Notes policy first report) (hs : Notes policy second (next value))
    : Notes policy (first ++ second) (report >>= next) := by
  cases hv : firstFailure policy first with
  | none =>
      have succeeded : report.result = .ok value := by rw [result, outcome, hv]
      rw [Notes, dropped, Report.events_bind_of_ok succeeded, List.filter_append,
        leftOut_append_of_eq_none hv, List.map_append]
      exact congrArg₂ (· ++ ·) hf hs
  | some failure =>
      have failed : report.result = .error failure := by rw [result, outcome, hv]
      rw [Notes, dropped, Report.events_bind_of_error failed, leftOut_append_of_eq_some hv]
      exact hf

/-- A last step that leaves nothing out adds nothing. -/
theorem Notes.bind_silent {report : Report α} {next : α → Report β} {visit : List Mention}
    (noted : Notes policy visit report) (silent : ∀ value, dropped (next value) = [])
    : Notes policy visit (report >>= next) := by
  rw [Notes, dropped]
  cases hr : report.result with
  | ok value =>
      rw [Report.events_bind_of_ok hr, List.filter_append]
      exact (congrArg₂ (· ++ ·) noted (silent value)).trans (List.append_nil _)
  | error failure =>
      rw [Report.events_bind_of_error hr]
      exact noted

/-- A first step that leaves nothing out adds nothing. -/
theorem Notes.after_silent {report : Report α} {next : α → Report β} {visit : List Mention}
    {value : α} (succeeds : report.result = .ok value) (silent : dropped report = [])
    (noted : Notes policy visit (next value))
    : Notes policy visit (report >>= next) := by
  have first : Notes policy [] report := silent
  exact first.bind succeeds noted

theorem result_collect_eq_outcome {step : α → Report β} {visit : α → List Mention} {value : α → β}
    (items : List α)
    (result : ∀ item, (step item).result = outcome policy (visit item) (value item))
    : (Report.collect step items).result
      = outcome policy (items.flatMap visit) (items.map value) := by
  rw [Report.result_collect]
  exact mapM_eq_outcome items fun item _ => result item

/-- Steps for the items of a list go through the visits in order, by induction on the items. -/
theorem Notes.collect {step : α → Report β} {visit : α → List Mention} {value : α → β}
    (items : List α)
    (result : ∀ item, (step item).result = outcome policy (visit item) (value item))
    (noted : ∀ item, Notes policy (visit item) (step item))
    : Notes policy (items.flatMap visit) (Report.collect step items) := by
  induction items with
  | nil => rfl
  | cons item rest ih =>
      rw [Report.collect, List.flatMap_cons]
      exact (noted item).bind (result item) (ih.bind_silent fun _ => rfl)

theorem notes_unresolved (policy : Policy) (owner : String) {kind : SymbolKind}
    (hk : kind ≠ .declaration)
    : Notes policy [⟨owner, kind, none⟩] (policy.unresolved owner kind) := by
  cases policy with
  | drop =>
      have fine : Mention.offends .drop ⟨owner, kind, none⟩ = false := by
        simp [Mention.offends, hk]
      simp [Notes, Policy.unresolved, dropped, leftOut, fine, Mention.dropping]
  | reject =>
      rw [Notes, leftOut_reject]
      rfl

/-- A missing name of a declaration ends the visit, and nothing is told of it. -/
theorem Body.notes_name (policy : Policy) (body : Body)
    : Notes policy [body.mention] body.name := by
  cases hs : body.symbol with
  | none => simp [Notes, Body.name, hs, dropped, leftOut, Mention.offends, Body.mention]
  | some name => simp [Notes, Body.name, hs, leftOut, Mention.offends, Body.mention]

/-- Members without a name are told of in order, by induction on the members. -/
theorem notes_members (policy : Policy) (owner : String) {kind : SymbolKind}
    (hk : kind ≠ .declaration) (list : List Member)
    : Notes policy (list.map (⟨owner, kind, ·.symbol⟩)) (members policy owner kind list) := by
  induction list with
  | nil => rfl
  | cons member rest ih =>
      obtain ⟨symbol, modifiers⟩ := member
      cases symbol with
      | none =>
          rw [members]
          exact (notes_unresolved policy owner hk).bind (result_unresolved policy owner hk) ih
      | some name =>
          rw [Notes, List.map_cons, leftOut_cons_of_isSome rfl, members]
          exact ih.bind_silent fun _ => rfl

theorem Body.notes_node (policy : Policy) (kind : Classifier.Kind) (body : Body)
    : Notes policy body.visit (body.node policy kind) := by
  have other : "Normalized " ++ kind.text ≠ "Dropping unresolved symbol" := by
    cases kind <;> decide
  rw [Body.node, Body.visit, ← List.singleton_append]
  apply (body.notes_name policy).bind (body.result_name policy)
  rw [Notes, dropped_within]
  apply (notes_members policy _ (by decide) _).bind (result_members policy _ (by decide) _)
  apply (notes_members policy _ (by decide) _).bind_silent
  intro methods
  exact dropped_tell_of_ne other

/-- Supertypes without a name are told of in order, by induction on them. -/
theorem notes_edgesTo (policy : Policy) (child : String) (supertypes : List Supertype)
    : Notes policy (supertypes.map (⟨child, .heritage, ·.identifier⟩))
        (edgesTo policy child supertypes) := by
  induction supertypes with
  | nil => rfl
  | cons supertype rest ih =>
      obtain ⟨identifier⟩ := supertype
      cases identifier with
      | none =>
          rw [edgesTo]
          exact (notes_unresolved policy child (by decide)).bind
            (result_unresolved policy child (by decide)) ih
      | some parent =>
          rw [Notes, List.map_cons, leftOut_cons_of_isSome rfl, edgesTo]
          have other : "Heritage edge" ≠ "Dropping unresolved symbol" := by decide
          exact Notes.after_silent rfl (dropped_tell_of_ne other) (ih.bind_silent fun _ => rfl)

theorem Class.notes_edges (policy : Policy) (decl : Class)
    : Notes policy (decl.mention :: decl.heritageVisit) (decl.edges policy) := by
  rw [Class.edges, ← List.singleton_append]
  exact (decl.toBody.notes_name policy).bind (decl.toBody.result_name policy)
    (notes_edgesTo policy _ _)

/-- The second pass over the classes of a file leaves nothing out on account of their names: it is
not reached unless all of them have one.
-/
theorem leftOut_second_pass (policy : Policy) (file : File)
    : leftOut policy
          (file.classes.flatMap (·.toBody.visit)
            ++ (file.interfaces.flatMap (·.toBody.visit)
              ++ file.classes.flatMap fun decl => decl.mention :: decl.heritageVisit))
      = leftOut policy file.visit := by
  rw [File.visit, List.append_assoc]
  cases hc : firstFailure policy (file.classes.flatMap (·.toBody.visit)) with
  | some failure => rw [leftOut_append_of_eq_some hc, leftOut_append_of_eq_some hc]
  | none =>
      have named : ∀ decl ∈ file.classes, decl.mention.symbol.isSome := by
        intro decl member
        have fine := firstFailure_eq_none_iff.mp hc decl.mention
          (List.mem_flatMap.mpr ⟨decl, member, List.mem_cons_self⟩)
        simpa [Mention.offends, Body.mention, Option.isSome_iff_ne_none] using fine
      exact leftOut_append_congr _ (leftOut_append_congr _ (leftOut_flatMap_cons _ named))

/-- A file tells of what it leaves out in the order of its visit. -/
theorem File.notes_entries (policy : Policy) (file : File)
    : Notes policy file.visit (file.entries policy) := by
  have classResult (decl : Class) := decl.toBody.result_node policy .classNode
  have interfaceResult (decl : Interface) := decl.toBody.result_node policy .interfaceNode
  have edgeResult (decl : Class) := decl.result_edges policy
  have classes := Notes.collect file.classes classResult
    fun decl => decl.toBody.notes_node policy .classNode
  have interfaces := Notes.collect file.interfaces interfaceResult
    fun decl => decl.toBody.notes_node policy .interfaceNode
  have edges := Notes.collect file.classes edgeResult fun decl => decl.notes_edges policy
  rw [Notes, ← leftOut_second_pass, File.entries, dropped_within]
  exact classes.bind (result_collect_eq_outcome _ classResult)
    (interfaces.bind (result_collect_eq_outcome _ interfaceResult)
      (edges.bind_silent fun _ => rfl))

/-- Building tells of what it leaves out in the order of the visit, up to the first failure. -/
theorem Dump.notes_diagram (policy : Policy) (dump : Dump)
    : Notes policy dump.visit (dump.diagram policy) := by
  have files := Notes.collect dump.files (fun file => file.result_entries policy)
    fun file => file.notes_entries policy
  have other : "Model built" ≠ "Dropping unresolved symbol" := by decide
  rw [Notes, Dump.diagram, dropped_within]
  exact files.bind_silent fun _ => dropped_tell_of_ne other

end ClassDiagram.Declaration
