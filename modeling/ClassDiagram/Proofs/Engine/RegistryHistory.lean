import ClassDiagram.Proofs.Engine.RegistrySelection
import ClassDiagram.Proofs.Engine.RenderedBodies

/-! Registries after any history of registering and selecting, failures included. What is found
under a name is decided by the history alone, names stay sorted, and whatever is asked of the
registry is answered by the engine that the selection names.
-/

namespace ClassDiagram.Registry

-----------------------------------------------------------------------------------------
-- Histories
-----------------------------------------------------------------------------------------

/-- A step that may change a registry. -/
inductive Change where
  | register (engine : Engine)
  | select (name : String)

/-- The engine that a change registers, if it does. -/
def Change.engine? : Change → Option Engine
  | register engine => some engine
  | select _ => none

def attempt (registry : Registry) : Change → Report Registry
  | .register engine => registry.register engine
  | .select name => registry.select name

/-- The registry after a change; a change that fails leaves the registry as it was. -/
def after (registry : Registry) (change : Change) : Registry :=
  match (registry.attempt change).result with
  | .ok next => next
  | .error _ => registry

/-- The ways in which a registry is set up. -/
inductive Start where
  | empty
  | builtin
  | ofKind (kind : EngineKind)

def Start.registry : Start → Report Registry
  | empty => pure Registry.empty
  | builtin => Registry.builtin
  | ofKind kind => Registry.ofKind kind

def builtinChanges : List Change :=
  [.register Mermaid.engine, .register (Yuml.engine (.ofUrl Yuml.Client.publicUrl))]

/-- The changes of an empty registry that a start stands for. -/
def Start.changes : Start → List Change
  | empty => []
  | builtin => builtinChanges
  | ofKind kind => builtinChanges ++ [.select kind.text]

/-- The engine that was registered last under a name. -/
def latest (registered : List Engine) (name : String) : Option Engine :=
  registered.reverse.find? (·.name == name)

-----------------------------------------------------------------------------------------
-- What one change does
-----------------------------------------------------------------------------------------

theorem after_register (registry : Registry) (engine : Engine)
    : registry.after (.register engine) = registry.add engine := rfl

theorem after_select_of_find?_eq_some {registry : Registry} {name : String} {engine : Engine}
    (found : registry.find? name = some engine)
    : registry.after (.select name) = { registry with selection := some (.chosen name) } := by
  have selected := result_select_eq_ok_iff.mpr ⟨⟨engine, found⟩, rfl⟩
  simp only [after, attempt, selected]

theorem after_select_of_find?_eq_none {registry : Registry} {name : String}
    (unknown : registry.find? name = none)
    : registry.after (.select name) = registry := by
  have failed : (registry.select name).result = .error (.unknownEngine name registry.names) := by
    simp only [select, unknown, Report.result_fail]
  simp only [after, attempt, failed]

/-- A change either registers, or selects a known name, or does nothing. -/
theorem Reachable.after {registry : Registry} (reached : registry.Reachable) (change : Change)
    : (registry.after change).Reachable := by
  cases change with
  | register engine => exact .register reached engine
  | select name =>
      cases hf : registry.find? name with
      | none =>
          rw [after_select_of_find?_eq_none hf]
          exact reached
      | some engine =>
          rw [after_select_of_find?_eq_some hf]
          exact .select reached (result_select_eq_ok_iff.mpr ⟨⟨engine, hf⟩, rfl⟩)

/-- Selecting does not touch the engines. -/
theorem engines_after_select (registry : Registry) (name : String)
    : (registry.after (.select name)).engines = registry.engines := by
  cases hf : registry.find? name with
  | none => rw [after_select_of_find?_eq_none hf]
  | some engine => rw [after_select_of_find?_eq_some hf]

theorem latest_concat (registered : List Engine) (engine : Engine) (name : String)
    : latest (registered ++ [engine]) name
      = if engine.name = name then some engine else latest registered name := by
  rw [latest, List.reverse_concat, List.find?_cons]
  by_cases hn : engine.name = name
  · simp [hn]
  · rw [if_neg hn, beq_eq_false_iff_ne.mpr hn, latest]

/-- What is found follows what is registered, whatever the change. -/
theorem find?_after {registry : Registry} {registered : List Engine}
    (known : ∀ name, registry.find? name = latest registered name) (change : Change)
    : ∀ name, (registry.after change).find? name
        = latest (registered ++ change.engine?.toList) name := by
  intro name
  cases change with
  | register engine =>
      rw [after_register, find?_add, Change.engine?, Option.toList_some, latest_concat, known]
  | select chosen =>
      rw [Change.engine?, Option.toList_none, List.append_nil, ← known, find?, find?,
        engines_after_select]

-----------------------------------------------------------------------------------------
-- What a history does
-----------------------------------------------------------------------------------------

/-- All registries of a history are reachable, by induction on the changes. -/
theorem Reachable.foldl_after {registry : Registry} (reached : registry.Reachable)
    (changes : List Change)
    : (changes.foldl Registry.after registry).Reachable := by
  induction changes generalizing registry with
  | nil => exact reached
  | cons change rest ih => exact ih (reached.after change)

/-- After a history the engine registered last under a name is found there, by induction on the
changes.
-/
theorem find?_foldl_after {registry : Registry} {registered : List Engine}
    (known : ∀ name, registry.find? name = latest registered name) (changes : List Change)
    : ∀ name, (changes.foldl after registry).find? name
        = latest (registered ++ changes.filterMap Change.engine?) name := by
  induction changes generalizing registry registered with
  | nil => simpa only [List.foldl_nil, List.filterMap_nil, List.append_nil] using known
  | cons change rest ih =>
      have later := ih (find?_after known change)
      intro name
      rw [List.foldl_cons, later, List.append_assoc]
      cases he : change.engine? <;> simp [he]

/-- A start succeeds, and it is the history that it stands for. -/
theorem Start.result_registry (start : Start)
    : start.registry.result = .ok (start.changes.foldl after Registry.empty) := by
  cases start with
  | empty => rfl
  | builtin => rfl
  | ofKind kind =>
      have known : ∃ engine,
          (builtinChanges.foldl after Registry.empty).find? kind.text = some engine := by
        cases kind with
        | mermaid => exact ⟨_, rfl⟩
        | yuml => exact ⟨_, rfl⟩
      obtain ⟨engine, found⟩ := known
      have selected := result_select_eq_ok_iff.mpr ⟨⟨engine, found⟩, rfl⟩
      rw [Start.changes, List.foldl_append, List.foldl_cons, List.foldl_nil,
        after_select_of_find?_eq_some found]
      exact selected

-----------------------------------------------------------------------------------------
-- Names
-----------------------------------------------------------------------------------------

theorem mem_names_iff_exists_find? {registry : Registry} {name : String}
    : name ∈ registry.names ↔ ∃ engine, registry.find? name = some engine := by
  rw [← Option.isSome_iff_exists, find?, List.lookup_isSome_iff, names, List.mem_map]
  simp only [beq_iff_eq, @eq_comm _ name]

theorem mem_latest {registered : List Engine} {name : String} {engine : Engine}
    (found : latest registered name = some engine)
    : engine ∈ registered ∧ engine.name = name := by
  refine ⟨List.mem_reverse.mp (List.mem_of_find?_eq_some found), ?_⟩
  simpa only [beq_iff_eq] using List.find?_some found

theorem exists_latest_iff {registered : List Engine} {name : String}
    : (∃ engine, latest registered name = some engine)
      ↔ ∃ engine ∈ registered, engine.name = name := by
  rw [← Option.isSome_iff_exists, latest, List.find?_isSome]
  simp only [List.mem_reverse, beq_iff_eq]

/-- Exactly the names of registered engines are known. -/
theorem mem_names_iff_of_find?_eq_latest {registry : Registry} {registered : List Engine}
    (known : ∀ name, registry.find? name = latest registered name) (name : String)
    : name ∈ registry.names ↔ ∃ engine ∈ registered, engine.name = name := by
  rw [mem_names_iff_exists_find?, known, exists_latest_iff]

theorem engines_eq_nil_iff_of_find?_eq_latest {registry : Registry} {registered : List Engine}
    (known : ∀ name, registry.find? name = latest registered name)
    : registry.engines = [] ↔ registered = [] := by
  have names := mem_names_iff_of_find?_eq_latest known
  constructor
  · intro none
    apply List.eq_nil_iff_forall_not_mem.mpr
    intro engine member
    have known := (names engine.name).mpr ⟨engine, member, rfl⟩
    rw [Registry.names, none] at known
    cases known
  · rintro rfl
    apply List.eq_nil_iff_forall_not_mem.mpr
    intro stored member
    obtain ⟨engine, impossible, -⟩ := (names stored.1).mp (List.mem_map_of_mem member)
    cases impossible

theorem mem_insertSorted {name : String} {engine : Engine} {other : String × Engine}
    {engines : List (String × Engine)} (member : other ∈ insertSorted name engine engines)
    : other = (name, engine) ∨ other ∈ engines := by
  induction engines with
  | nil => exact .inl (List.mem_singleton.mp member)
  | cons first rest ih =>
      rw [insertSorted] at member
      split at member
      · exact List.mem_cons.mp member
      · split at member
        · rcases List.mem_cons.mp member with rfl | later
          · exact .inl rfl
          · exact .inr (List.mem_cons_of_mem first later)
        · rcases List.mem_cons.mp member with rfl | later
          · exact .inr List.mem_cons_self
          · exact (ih later).imp_right (List.mem_cons_of_mem first)

/-- Names stay strictly increasing, by induction on the engines that are passed. -/
theorem pairwise_insertSorted {name : String} {engine : Engine} {engines : List (String × Engine)}
    (sorted : engines.Pairwise (·.1 < ·.1))
    : (insertSorted name engine engines).Pairwise (·.1 < ·.1) := by
  induction engines with
  | nil => exact List.pairwise_singleton _ (name, engine)
  | cons first rest ih =>
      obtain ⟨before, tail⟩ := List.pairwise_cons.mp sorted
      rw [insertSorted]
      split
      · next smaller =>
          refine List.pairwise_cons.mpr ⟨?_, sorted⟩
          intro other member
          rcases List.mem_cons.mp member with rfl | later
          · exact smaller
          · exact String.lt_trans smaller (before other later)
      · split
        · next same =>
            refine List.pairwise_cons.mpr ⟨?_, tail⟩
            intro other member
            rw [same]
            exact before other member
        · next notSmaller differ =>
            refine List.pairwise_cons.mpr ⟨?_, ih tail⟩
            intro other member
            rcases mem_insertSorted member with rfl | later
            · exact Std.lt_of_le_of_ne (String.not_lt.mp notSmaller) (Ne.symm differ)
            · exact before other later

theorem Reachable.pairwise_names {registry : Registry} (reached : registry.Reachable)
    : registry.names.Pairwise (· < ·) := by
  rw [names, List.pairwise_map]
  induction reached with
  | empty => exact .nil
  | register _ engine ih => exact pairwise_insertSorted ih
  | select _ selected ih =>
      obtain ⟨-, rfl⟩ := result_select_eq_ok_iff.mp selected
      exact ih

/-- What stands under a name answers that name, by induction on how the registry came about. -/
theorem Reachable.name_of_mem_engines {registry : Registry} (reached : registry.Reachable)
    : ∀ stored ∈ registry.engines, stored.2.name = stored.1 := by
  induction reached with
  | empty =>
      intro stored impossible
      cases impossible
  | register _ engine ih =>
      intro stored member
      rcases mem_insertSorted member with rfl | earlier
      · rfl
      · exact ih stored earlier
  | select _ selected ih =>
      obtain ⟨-, rfl⟩ := result_select_eq_ok_iff.mp selected
      exact ih

/-- Nothing is selected exactly while there is nothing to select. -/
theorem Reachable.selection_eq_none_iff {registry : Registry} (reached : registry.Reachable)
    : registry.selection = none ↔ registry.engines = [] := by
  constructor
  · intro unselected
    cases he : registry.engines with
    | nil => rfl
    | cons engine rest =>
        obtain ⟨selection, selected⟩ := reached.exists_selection (he ▸ List.cons_ne_nil engine rest)
        rw [unselected] at selected
        cases selected
  · intro none
    cases hs : registry.selection with
    | none => rfl
    | some selection =>
        obtain ⟨engine, found⟩ := reached.exists_find?_selection selection hs
        rw [find?, none] at found
        cases found

-----------------------------------------------------------------------------------------
-- Answers
-----------------------------------------------------------------------------------------

/-- Whatever is asked of the registry, it answers what the engine answers. -/
structure Answers (registry : Registry) (engine : Engine) : Prop where
  active : registry.active = .ok engine
  separator : registry.separator = .ok engine.separator
  inheritance (parent child : String)
    : registry.inheritance parent child = .ok (engine.inheritance parent child)
  classNode (name : String) (properties methods : List Member)
    : registry.classNode name properties methods = .ok (engine.classNode name properties methods)
  interfaceNode (name : String) (properties methods : List Member)
    : registry.interfaceNode name properties methods
      = .ok (engine.interfaceNode name properties methods)
  node (classifier : Classifier) : registry.node classifier = .ok (engine.node classifier)

theorem answers_of_active {registry : Registry} {engine : Engine}
    (active : registry.active = .ok engine)
    : registry.Answers engine where
  active := active
  separator := by rw [separator, active]; rfl
  inheritance parent child := by rw [inheritance, active]; rfl
  classNode name properties methods := by rw [classNode, active]; rfl
  interfaceNode name properties methods := by rw [interfaceNode, active]; rfl
  node classifier := by rw [node, active]; rfl

theorem active_of_selection_eq_none {registry : Registry} (unselected : registry.selection = none)
    : registry.active = .error (.unknownEngine noName registry.names) := by
  simp only [active, unselected, Option.bind_none]

/-- The text of an entry as the registry itself renders it. -/
def fragment (registry : Registry) : Entry → Except Failure String
  | .node classifier => registry.node classifier
  | .edge edge => registry.inheritance edge.parent edge.child

/-- The answers of the registry for all entries, joined by its separator. -/
def joinedFragments (registry : Registry) (diagram : Diagram) : Except Failure String := do
  let separator ← registry.separator
  let fragments ← diagram.entries.mapM registry.fragment
  pure (Text.join separator fragments)

theorem Answers.fragment {registry : Registry} {engine : Engine} (answers : registry.Answers engine)
    (entry : Entry)
    : registry.fragment entry = .ok (engine.fragment entry) := by
  cases entry with
  | node classifier => exact answers.node classifier
  | edge edge => exact answers.inheritance edge.parent edge.child

theorem Answers.joinedFragments {registry : Registry} {engine : Engine}
    (answers : registry.Answers engine) (diagram : Diagram)
    : registry.joinedFragments diagram = .ok (engine.render diagram) := by
  have fragments : diagram.entries.mapM registry.fragment
      = .ok (diagram.entries.map engine.fragment) := by
    rw [funext answers.fragment]
    exact List.mapM_pure
  rw [Registry.joinedFragments, answers.separator, fragments]
  rfl

/-- Without engines there is no text, not even of a diagram without entries. -/
theorem joinedFragments_of_selection_eq_none {registry : Registry}
    (unselected : registry.selection = none) (diagram : Diagram)
    : registry.joinedFragments diagram = .error (.unknownEngine noName registry.names) := by
  rw [joinedFragments, separator, active_of_selection_eq_none unselected]
  rfl

/-- The engine that the selection names answers for the registry. -/
theorem Reachable.exists_answers {registry : Registry} (reached : registry.Reachable)
    {selection : Selection} (selected : registry.selection = some selection)
    : ∃ engine, registry.find? selection.name = some engine ∧ registry.Answers engine := by
  obtain ⟨engine, found⟩ := reached.exists_find?_selection selection selected
  have active : registry.active = .ok engine := by
    simp only [Registry.active, selected, Option.bind_some, found]
  exact ⟨engine, found, answers_of_active active⟩

/-- Rendering with a generator comes to joining the answers of its registry. -/
theorem Reachable.result_render {registry : Registry} (reached : registry.Reachable)
    (policy : Policy) (diagram : Diagram)
    : (Generator.render ⟨registry, policy⟩ diagram).result
      = registry.joinedFragments diagram := by
  rw [Generator.result_render]
  cases hs : registry.selection with
  | none =>
      rw [joinedFragments_of_selection_eq_none hs, active_of_selection_eq_none hs]
      rfl
  | some selection =>
      obtain ⟨engine, -, answers⟩ := reached.exists_answers hs
      rw [answers.joinedFragments, answers.active]
      rfl

/-- Rendering fails for want of any engine, and for nothing else. -/
theorem Reachable.result_render_eq_error_iff {registry : Registry} (reached : registry.Reachable)
    (policy : Policy) (diagram : Diagram) (failure : Failure)
    : (Generator.render ⟨registry, policy⟩ diagram).result = .error failure
      ↔ registry.engines = [] ∧ failure = .unknownEngine "<none>" [] := by
  rw [reached.result_render, ← reached.selection_eq_none_iff]
  cases hs : registry.selection with
  | none =>
      have names : registry.names = [] := by
        rw [Registry.names, reached.selection_eq_none_iff.mp hs, List.map_nil]
      rw [joinedFragments_of_selection_eq_none hs, names]
      simp [noName, eq_comm]
  | some selection =>
      obtain ⟨engine, -, answers⟩ := reached.exists_answers hs
      rw [answers.joinedFragments]
      simp

-----------------------------------------------------------------------------------------
-- All histories
-----------------------------------------------------------------------------------------

/-- What holds of a registry in which the given engines were registered, one after another. -/
structure Consistent (registry : Registry) (registered : List Engine) : Prop where
  selection_eq_none_iff : registry.selection = none ↔ registered = []
  /-- The selection names an engine, and that engine answers for the registry. -/
  answers_of_selection
    : ∀ selection,
        registry.selection = some selection
        → ∃ engine ∈ registered,
            engine.name = selection.name
            ∧ registry.find? selection.name = some engine
            ∧ registry.Answers engine
  /-- What is stored under a name answers that name. -/
  name_of_mem_engines : ∀ stored ∈ registry.engines, stored.2.name = stored.1
  found_of_mem_names
    : ∀ name ∈ registry.names,
        ∃ engine ∈ registered, engine.name = name ∧ registry.find? name = some engine
  increasing_names : registry.names.Pairwise (· < ·)
  mem_names_iff : ∀ name, name ∈ registry.names ↔ ∃ engine ∈ registered, engine.name = name
  result_render
    : ∀ policy diagram,
        (Generator.render ⟨registry, policy⟩ diagram).result = registry.joinedFragments diagram
  result_render_eq_error_iff
    : ∀ policy diagram failure,
        (Generator.render ⟨registry, policy⟩ diagram).result = .error failure
          ↔ registered = [] ∧ failure = .unknownEngine "<none>" []

/-- Being reachable and finding by name what was registered last is all that consistency needs. -/
theorem Reachable.consistent {registry : Registry} (reached : registry.Reachable)
    {registered : List Engine} (known : ∀ name, registry.find? name = latest registered name)
    : registry.Consistent registered := by
  have empty := engines_eq_nil_iff_of_find?_eq_latest known
  have registeredUnder {name : String} {engine : Engine}
      (found : registry.find? name = some engine)
      : engine ∈ registered ∧ engine.name = name :=
    mem_latest (known name ▸ found)
  constructor
  case selection_eq_none_iff => exact reached.selection_eq_none_iff.trans empty
  case answers_of_selection =>
    intro selection selected
    obtain ⟨engine, found, answers⟩ := reached.exists_answers selected
    obtain ⟨member, name⟩ := registeredUnder found
    exact ⟨engine, member, name, found, answers⟩
  case name_of_mem_engines => exact reached.name_of_mem_engines
  case found_of_mem_names =>
    intro name member
    obtain ⟨engine, found⟩ := mem_names_iff_exists_find?.mp member
    obtain ⟨member, name⟩ := registeredUnder found
    exact ⟨engine, member, name, found⟩
  case increasing_names => exact reached.pairwise_names
  case mem_names_iff => exact mem_names_iff_of_find?_eq_latest known
  case result_render => exact reached.result_render
  case result_render_eq_error_iff =>
    intro policy diagram failure
    rw [reached.result_render_eq_error_iff, empty]

/-- However a registry is set up and whatever is then registered and selected, failing selections
included, the registry stays consistent with the engines registered so far. Witness: a history keeps
registries reachable and decides what is found by name.
-/
theorem history_keeps_registry_consistent (start : Start) (changes : List Change)
    : ∃ initial,
        start.registry.result = .ok initial
        ∧ Consistent (changes.foldl after initial)
            ((start.changes ++ changes).filterMap Change.engine?) := by
  refine ⟨_, start.result_registry, ?_⟩
  rw [← List.foldl_append]
  have unknown : ∀ name, Registry.empty.find? name = latest [] name := fun _ => rfl
  have known := find?_foldl_after unknown (start.changes ++ changes)
  exact (Reachable.empty.foldl_after _).consistent known

/-- An engine that takes the place of the active one answers at once, also after a selection that
failed.
-/
theorem replacement_answers_after_failed_selection
    : ∃ initial, (Start.ofKind .yuml).registry.result = .ok initial
        ∧ let registry :=
            [.select "graphviz", .register { Mermaid.engine with name := "yuml" }].foldl
              after initial
          registry.selection = some (.chosen "yuml")
          ∧ registry.names = ["mermaid", "yuml"]
          ∧ registry.Answers { Mermaid.engine with name := "yuml" } := by
  obtain ⟨initial, started, consistent⟩ :=
    history_keeps_registry_consistent (.ofKind .yuml)
      [.select "graphviz", .register { Mermaid.engine with name := "yuml" }]
  obtain rfl : (Start.ofKind .yuml).changes.foldl after Registry.empty = initial :=
    Except.ok.inj ((Start.result_registry _).symm.trans started)
  obtain ⟨engine, -, -, found, answers⟩ := consistent.answers_of_selection (.chosen "yuml") rfl
  obtain rfl : { Mermaid.engine with name := "yuml" } = engine := Option.some.inj found
  exact ⟨_, started, rfl, rfl, answers⟩

end ClassDiagram.Registry
