import ClassDiagram.Proofs.Engine.RegistryHistory
import Mathlib.Data.List.Dedup
import Mathlib.Data.List.Sort

/-! Runs of a registry, questions included. The registry after a run is a function of what was
registered and selected, so that questions and selections that fail can be left out of a run
without another step coming out differently.
-/

namespace ClassDiagram.Registry

-----------------------------------------------------------------------------------------
-- Steps and their results
-----------------------------------------------------------------------------------------

/-- A question to a registry. -/
inductive Query where
  | selection
  | names
  | active
  | separator
  | inheritance (parent child : String)
  | classNode (name : String) (properties methods : List Member)
  | interfaceNode (name : String) (properties methods : List Member)
  | node (classifier : Classifier)

/-- What a step returns when it succeeds. -/
inductive Answer where
  | done
  | selection (selection : Option Selection)
  | names (names : List String)
  | engine (engine : Engine)
  | text (text : String)

def answer (registry : Registry) : Query → Except Failure Answer
  | .selection => .ok (.selection registry.selection)
  | .names => .ok (.names registry.names)
  | .active => registry.active.map .engine
  | .separator => registry.separator.map .text
  | .inheritance parent child => (registry.inheritance parent child).map .text
  | .classNode name properties methods => (registry.classNode name properties methods).map .text
  | .interfaceNode name properties methods =>
    (registry.interfaceNode name properties methods).map .text
  | .node classifier => (registry.node classifier).map .text

inductive Step where
  | change (change : Change)
  | query (query : Query)

def Step.change? : Step → Option Change
  | .change step => some step
  | .query _ => none

def result (registry : Registry) : Step → Except Failure Answer
  | .change change => (registry.attempt change).result.map fun _ => .done
  | .query query => registry.answer query

def next (registry : Registry) : Step → Registry
  | .change change => registry.after change
  | .query _ => registry

/-- The steps of a run, each with its result. -/
def trace (registry : Registry) : List Step → List (Step × Except Failure Answer)
  | [] => []
  | step :: rest => (step, registry.result step) :: (registry.next step).trace rest

/-- The step was a question, or a selection that failed. -/
def isIdle : Step × Except Failure Answer → Bool
  | (.query _, _) => true
  | (.change (.select _), .error _) => true
  | _ => false

/-- The name that a step selected, if it was a selection and succeeded. -/
def selected? : Step × Except Failure Answer → Option String
  | (.change (.select name), .ok _) => some name
  | _ => none

/-- Some idle steps of a run are left out, with their results. -/
inductive Thinned
    : List (Step × Except Failure Answer) → List (Step × Except Failure Answer) → Prop
  | nil : Thinned [] []
  | keep {full thin} (entry : Step × Except Failure Answer) (rest : Thinned full thin)
    : Thinned (entry :: full) (entry :: thin)
  | drop {full thin} {entry : Step × Except Failure Answer} (idle : isIdle entry = true)
    (rest : Thinned full thin)
    : Thinned (entry :: full) thin

-----------------------------------------------------------------------------------------
-- What a history comes to
-----------------------------------------------------------------------------------------

/-- The engines that are registered in a history, in order. -/
def registered (changes : List Change) : List Engine :=
  changes.filterMap Change.engine?

/-- The names that engines registered under, sorted. -/
def sortedNames (registered : List Engine) : List String :=
  (registered.map Engine.name).dedup.mergeSort

/-- The selected names under which an engine was registered before, given the engines registered
so far.
-/
def knownSelections (registered : List Engine) : List Change → List String
  | [] => []
  | .register engine :: rest => knownSelections (registered ++ [engine]) rest
  | .select name :: rest =>
    if name ∈ registered.map Engine.name then name :: knownSelections registered rest
    else knownSelections registered rest

/-- The last known name that was selected decides, and without one the first engine. -/
def decidedSelection (changes : List Change) : Option Selection :=
  match (knownSelections [] changes).getLast? with
  | some name => some (.chosen name)
  | none => (registered changes).head?.map fun engine => .byDefault engine.name

/-- The engine that answers: the last one registered under the selected name. -/
def decidedActive (changes : List Change) : Except Failure Engine :=
  match (decidedSelection changes).bind fun selection =>
      latest (registered changes) selection.name with
  | some engine => .ok engine
  | none => .error (.unknownEngine "<none>" [])

/-- The registry that a history comes to, apart from the way there. -/
def ofHistory (changes : List Change) : Registry where
  engines :=
    (sortedNames (registered changes)).filterMap fun name =>
      (latest (registered changes) name).map (name, ·)
  selection := decidedSelection changes

-----------------------------------------------------------------------------------------
-- Names and engines
-----------------------------------------------------------------------------------------

theorem mem_sortedNames {registered : List Engine} {name : String}
    : name ∈ sortedNames registered ↔ ∃ engine ∈ registered, engine.name = name := by
  rw [sortedNames, List.mem_mergeSort, List.mem_dedup, List.mem_map]

/-- Names in increasing order are determined by which names there are. -/
theorem eq_sortedNames {names : List String} {registered : List Engine}
    (increasing : names.Pairwise (· < ·))
    (known : ∀ name, name ∈ names ↔ ∃ engine ∈ registered, engine.name = name)
    : names = sortedNames registered := by
  have perm : names.Perm (sortedNames registered) := by
    apply (List.perm_ext_iff_of_nodup increasing.nodup ?_).mpr
    · intro name
      rw [known, mem_sortedNames]
    · exact (List.mergeSort_perm _ _).nodup_iff.mpr (List.nodup_dedup _)
  have sorted : (sortedNames registered).Pairwise (· ≤ ·) := List.pairwise_mergeSort' _ _
  exact perm.eq_of_pairwise (fun _ _ _ _ => String.le_antisymm)
    (increasing.imp fun lt => Std.le_of_lt lt) sorted

/-- Engines under names in increasing order are found by these names one after another, by induction
on the engines.
-/
theorem filterMap_lookup_names {engines : List (String × Engine)}
    (increasing : engines.Pairwise (·.1 < ·.1))
    : (engines.map Prod.fst).filterMap (fun name => (engines.lookup name).map (name, ·))
      = engines := by
  induction engines with
  | nil => rfl
  | cons first rest ih =>
      obtain ⟨before, tail⟩ := List.pairwise_cons.mp increasing
      have own : ((first :: rest).lookup first.1).map (first.1, ·) = some first := by
        rw [lookup_cons, if_pos rfl, Option.map_some]
      have others : (rest.map Prod.fst).filterMap
            (fun name => ((first :: rest).lookup name).map (name, ·))
          = (rest.map Prod.fst).filterMap (fun name => (rest.lookup name).map (name, ·)) := by
        apply List.filterMap_congr
        intro name member
        obtain ⟨stored, later, rfl⟩ := List.mem_map.mp member
        have other : first.1 ≠ stored.1 :=
          fun same => String.lt_irrefl _ (same ▸ before stored later)
        rw [lookup_cons, if_neg other]
      rw [List.map_cons, List.filterMap_cons, own, others, ih tail]

/-- What is found by name and the order of names determine the engines. -/
theorem Reachable.engines_eq {registry : Registry} (reached : registry.Reachable)
    {registered : List Engine} (known : ∀ name, registry.find? name = latest registered name)
    : registry.names = sortedNames registered
      ∧ registry.engines
        = (sortedNames registered).filterMap fun name => (latest registered name).map (name, ·)
    := by
  have names : registry.names = sortedNames registered :=
    eq_sortedNames reached.pairwise_names (mem_names_iff_of_find?_eq_latest known)
  have increasing := reached.pairwise_names
  rw [Registry.names, List.pairwise_map] at increasing
  refine ⟨names, ?_⟩
  rw [← names, ← funext known]
  exact (filterMap_lookup_names increasing).symm

-----------------------------------------------------------------------------------------
-- Selections
-----------------------------------------------------------------------------------------

/-- A registered name is known to a registry that finds by name what was registered last. -/
theorem exists_find?_iff_mem_map_name {registry : Registry} {registered : List Engine}
    (known : ∀ name, registry.find? name = latest registered name) {name : String}
    : (∃ engine, registry.find? name = some engine) ↔ name ∈ registered.map Engine.name := by
  rw [known, exists_latest_iff, List.mem_map]

theorem find?_eq_none_of_notMem {registry : Registry} {registered : List Engine}
    (known : ∀ name, registry.find? name = latest registered name) {name : String}
    (unknown : name ∉ registered.map Engine.name)
    : registry.find? name = none := by
  rw [Option.eq_none_iff_forall_ne_some]
  intro engine found
  exact unknown ((exists_find?_iff_mem_map_name known).mp ⟨engine, found⟩)

/-- A selection succeeds exactly under a name registered before. -/
theorem result_select {registry : Registry} {registered : List Engine}
    (known : ∀ name, registry.find? name = latest registered name) (name : String)
    : (registry.select name).result
      = if name ∈ registered.map Engine.name then
          .ok { registry with selection := some (.chosen name) }
        else
          .error (.unknownEngine name registry.names) := by
  split
  · next member =>
      exact result_select_eq_ok_iff.mpr ⟨(exists_find?_iff_mem_map_name known).mpr member, rfl⟩
  · next unknown =>
      simp only [select, find?_eq_none_of_notMem known unknown, Report.result_fail]

/-- After a history the last known selection holds, else the earlier selection, else the first
engine; by induction on the changes.
-/
theorem selection_foldl_after {registry : Registry} {earlier : List Engine}
    (known : ∀ name, registry.find? name = latest earlier name) (changes : List Change)
    : (changes.foldl after registry).selection
      = ((knownSelections earlier changes).getLast?.map .chosen).or
          (registry.selection.or
            ((registered changes).head?.map fun engine => .byDefault engine.name)) := by
  induction changes generalizing registry earlier with
  | nil => simp [knownSelections, registered]
  | cons change rest ih =>
      have later := ih (find?_after known change)
      rw [List.foldl_cons, later]
      cases change with
      | register engine =>
          have selection : (registry.after (.register engine)).selection
              = registry.selection.or (some (.byDefault engine.name)) := by
            rw [after_register, add]
            cases registry.selection <;> rfl
          simp [selection, Change.engine?, knownSelections, registered]
      | select name =>
          simp only [Change.engine?, Option.toList_none, List.append_nil, knownSelections]
          split
          · next member =>
              obtain ⟨engine, found⟩ := (exists_find?_iff_mem_map_name known).mpr member
              rw [after_select_of_find?_eq_some found, List.getLast?_cons]
              cases (knownSelections earlier rest).getLast? <;> simp
          · next unknown =>
              rw [after_select_of_find?_eq_none (find?_eq_none_of_notMem known unknown)]
              rfl

/-- The registry after a history is the one that the history comes to. -/
theorem foldl_after_empty (changes : List Change)
    : changes.foldl after empty = ofHistory changes := by
  have unknown : ∀ name, empty.find? name = latest [] name := fun _ => rfl
  have known := find?_foldl_after unknown changes
  have engines := ((Reachable.empty.foldl_after changes).engines_eq known).2
  have selection := selection_foldl_after unknown changes
  have decided : (changes.foldl after empty).selection = decidedSelection changes := by
    rw [selection, decidedSelection]
    cases (knownSelections [] changes).getLast? <;> rfl
  calc changes.foldl after empty
      = ⟨(changes.foldl after empty).engines, (changes.foldl after empty).selection⟩ := rfl
    _ = ofHistory changes := by rw [engines, decided]; rfl

-----------------------------------------------------------------------------------------
-- Runs
-----------------------------------------------------------------------------------------

/-- Questions leave no trace in the registry, by induction on the steps. -/
theorem foldl_next (registry : Registry) (steps : List Step)
    : steps.foldl next registry = (steps.filterMap Step.change?).foldl after registry := by
  induction steps generalizing registry with
  | nil => rfl
  | cons step rest ih =>
      rw [List.foldl_cons, ih]
      cases step <;> rfl

/-- An idle step leaves the registry as it was. -/
theorem next_of_isIdle {registry : Registry} {step : Step}
    (idle : isIdle (step, registry.result step) = true)
    : registry.next step = registry := by
  cases step with
  | query _ => rfl
  | change performed =>
      cases performed with
      | register engine => cases idle
      | select name =>
          cases hf : registry.find? name with
          | none => exact after_select_of_find?_eq_none hf
          | some engine =>
              have selected := result_select_eq_ok_iff.mpr ⟨⟨engine, hf⟩, rfl⟩
              rw [result, attempt, selected] at idle
              cases idle

/-- Without some of its idle steps a run comes to the same registry, with the same results on the
way; by induction on the steps.
-/
theorem trace_of_thinned {registry : Registry} {steps : List Step}
    {kept : List (Step × Except Failure Answer)} (thinned : Thinned (registry.trace steps) kept)
    : registry.trace (kept.map Prod.fst) = kept
      ∧ (kept.map Prod.fst).foldl next registry = steps.foldl next registry := by
  induction steps generalizing registry kept with
  | nil =>
      cases thinned with
      | nil => exact ⟨rfl, rfl⟩
  | cons step rest ih =>
      cases thinned with
      | keep _ later =>
          obtain ⟨results, final⟩ := ih later
          refine ⟨?_, final⟩
          rw [List.map_cons, trace, results]
      | drop idle later =>
          rw [List.foldl_cons, next_of_isIdle idle]
          rw [next_of_isIdle idle] at later
          exact ih later

/-- Leaving out all idle steps is one way to thin a run, by induction on the run. -/
theorem thinned_filter (entries : List (Step × Except Failure Answer))
    : Thinned entries (entries.filter fun entry => !isIdle entry) := by
  induction entries with
  | nil => exact .nil
  | cons entry rest ih =>
      cases hi : isIdle entry with
      | true =>
          rw [List.filter_cons_of_neg (by simp [hi])]
          exact .drop hi ih
      | false =>
          rw [List.filter_cons_of_pos (by simp [hi])]
          exact .keep entry ih

/-- The selections that succeed in a run are the known ones of its history, by induction on the
steps.
-/
theorem filterMap_selected?_trace {registry : Registry} {earlier : List Engine}
    (known : ∀ name, registry.find? name = latest earlier name) (steps : List Step)
    : (registry.trace steps).filterMap selected?
      = knownSelections earlier (steps.filterMap Step.change?) := by
  induction steps generalizing registry earlier with
  | nil => rfl
  | cons step rest ih =>
      cases step with
      | query query => exact ih known
      | change performed =>
          have later := ih (find?_after known performed)
          cases performed with
          | register engine => exact later
          | select name =>
              have step
                  : selected? (.change (.select name), registry.result (.change (.select name)))
                    = if name ∈ earlier.map Engine.name then some name else none := by
                rw [result, attempt, result_select known]
                split <;> rfl
              rw [Change.engine?, Option.toList_none, List.append_nil] at later
              rw [trace, List.filterMap_cons, step, next, later]
              change _ = knownSelections earlier (.select name :: _)
              rw [knownSelections]
              by_cases member : name ∈ earlier.map Engine.name
              · rw [if_pos member, if_pos member]
              · rw [if_neg member, if_neg member]

-----------------------------------------------------------------------------------------
-- What decides
-----------------------------------------------------------------------------------------

/-- What holds of a registry that came about by the given changes. -/
structure DecidedBy (registry : Registry) (changes : List Change) : Prop where
  eq_ofHistory : registry = ofHistory changes
  /-- The engine registered last under a name has replaced all earlier ones. -/
  find?_eq_latest : ∀ name, registry.find? name = latest (registered changes) name
  names_eq : registry.names = sortedNames (registered changes)
  selection_eq : registry.selection = decidedSelection changes
  active_eq : registry.active = decidedActive changes
  /-- Whoever is active answers all questions. -/
  answers_of_active : ∀ engine, decidedActive changes = .ok engine → registry.Answers engine
  result_select
    : ∀ name,
        (registry.select name).result
          = if name ∈ (registered changes).map Engine.name then
              .ok { registry with selection := some (.chosen name) }
            else
              .error (.unknownEngine name (sortedNames (registered changes)))

theorem decidedBy_foldl_after (changes : List Change)
    : DecidedBy (changes.foldl after empty) changes := by
  have unknown : ∀ name, empty.find? name = latest [] name := fun _ => rfl
  have known : ∀ name, (changes.foldl after empty).find? name = latest (registered changes) name :=
    find?_foldl_after unknown changes
  have reached := Reachable.empty.foldl_after changes
  have names := (reached.engines_eq known).1
  have selection : (changes.foldl after empty).selection = decidedSelection changes := by
    rw [foldl_after_empty, ofHistory]
  have active : (changes.foldl after empty).active = decidedActive changes := by
    rw [Registry.active, decidedActive, ← selection, ← funext known]
    cases hs : (changes.foldl after empty).selection with
    | none =>
        have none : (changes.foldl after empty).names = [] := by
          rw [Registry.names, reached.selection_eq_none_iff.mp hs, List.map_nil]
        rw [none]
        rfl
    | some selection =>
        obtain ⟨engine, found⟩ := reached.exists_find?_selection selection hs
        simp only [Option.bind_some, found]
  constructor
  case eq_ofHistory => exact foldl_after_empty changes
  case find?_eq_latest => exact known
  case names_eq => exact names
  case selection_eq => exact selection
  case active_eq => exact active
  case answers_of_active =>
    intro engine decided
    exact Registry.answers_of_active (active.trans decided)
  case result_select =>
    intro name
    rw [result_select known, names]

/-- After any run of an empty registry, the engine under each name, the selection and all answers
are decided by what was registered and selected. Questions and selections that failed can be left
out, some or all, without another step coming out differently. Witness: idle steps change nothing,
and changes are followed one by one.
-/
theorem changes_alone_decide_run (steps : List Step)
    : DecidedBy (steps.foldl next empty) (steps.filterMap Step.change?)
      ∧ (empty.trace steps).filterMap selected?
          = knownSelections [] (steps.filterMap Step.change?)
      ∧ Thinned (empty.trace steps) ((empty.trace steps).filter fun entry => !isIdle entry)
      ∧ ∀ kept,
          Thinned (empty.trace steps) kept
          → empty.trace (kept.map Prod.fst) = kept
            ∧ (kept.map Prod.fst).foldl next empty = steps.foldl next empty := by
  refine ⟨?_, filterMap_selected?_trace (fun _ => rfl) steps, thinned_filter _, ?_⟩
  · rw [foldl_next]
    exact decidedBy_foldl_after _
  · intro kept thinned
    exact trace_of_thinned thinned

/-- A second engine of the active one's name answers the next question, and without the selection
that failed it does so too.
-/
theorem replacement_answers_without_failed_selection
    : let steps : List Step :=
        [
          .change (.register Mermaid.engine),
          .query .selection,
          .change (.select "graphviz"),
          .change (.register { Mermaid.engine with separator := "; " }),
          .query .separator
        ]
      let kept : List (Step × Except Failure Answer) :=
        [
          (.change (.register Mermaid.engine), .ok .done),
          (.change (.register { Mermaid.engine with separator := "; " }), .ok .done),
          (.query .separator, .ok (.text "; "))
        ]
      Thinned (empty.trace steps) kept
      ∧ empty.trace (kept.map Prod.fst) = kept
      ∧ (steps.foldl next empty).selection = some (.byDefault "mermaid")
      ∧ (steps.foldl next empty).Answers { Mermaid.engine with separator := "; " } := by
  intro steps kept
  obtain ⟨decided, -, -, thinning⟩ := changes_alone_decide_run steps
  have full : empty.trace steps
      = [
        (.change (.register Mermaid.engine), .ok .done),
        (.query .selection, .ok (.selection (some (.byDefault "mermaid")))),
        (.change (.select "graphviz"), .error (.unknownEngine "graphviz" ["mermaid"])),
        (.change (.register { Mermaid.engine with separator := "; " }), .ok .done),
        (.query .separator, .ok (.text "; "))
      ] := rfl
  have thinned : Thinned (empty.trace steps) kept := by
    rw [full]
    exact .keep _ (.drop rfl (.drop rfl (.keep _ (.keep _ .nil))))
  exact ⟨thinned, (thinning kept thinned).1, rfl, decided.answers_of_active _ rfl⟩

end ClassDiagram.Registry
