import ClassDiagram.Engine.Registry
import ClassDiagram.Proofs.Log.ReportResults

/-! The selection of a registry always names one of its engines, whatever engines are registered
and selected in whatever order, so that a registry with any engine has an active one.
-/

namespace ClassDiagram.Registry

/-- The registry came about by registering engines and selecting among them. A selection that fails
leaves no other registry behind.
-/
inductive Reachable : Registry → Prop
  | empty : Reachable empty
  | register {registry : Registry} (reached : Reachable registry) (engine : Engine)
    : Reachable (registry.add engine)
  | select {registry next : Registry} {name : String} (reached : Reachable registry)
    (selected : (registry.select name).result = .ok next)
    : Reachable next

/-- Selecting a registered name only changes the selection, and no other name is accepted. -/
theorem result_select_eq_ok_iff {registry next : Registry} {name : String}
    : (registry.select name).result = .ok next
      ↔ (∃ engine, registry.find? name = some engine)
        ∧ next = { registry with selection := some (.chosen name) } := by
  cases hf : registry.find? name with
  | none => simp [select, hf]
  | some engine =>
      have taken : (registry.select name).result
          = .ok { registry with selection := some (.chosen name) } := by
        simp only [select, hf, Report.result_bind, Report.result_tell, Report.result_pure]
        rfl
      simp [taken, eq_comm]

theorem lookup_cons (first : String × Engine) (rest : List (String × Engine)) (name : String)
    : (first :: rest).lookup name
      = if first.1 = name then some first.2 else rest.lookup name := by
  obtain ⟨own, engine⟩ := first
  by_cases hn : own = name
  · simp [hn]
  · simp [List.lookup_cons, hn, beq_eq_false_iff_ne.mpr (Ne.symm hn)]

/-- A lookup finds the engine that was inserted last under a name, by induction on the engines. -/
theorem lookup_insertSorted (key : String) (engine : Engine) (engines : List (String × Engine))
    (name : String)
    : (insertSorted key engine engines).lookup name
      = if key = name then some engine else engines.lookup name := by
  induction engines with
  | nil => exact lookup_cons (key, engine) [] name
  | cons first rest ih =>
      rw [insertSorted]
      split
      · exact lookup_cons (key, engine) (first :: rest) name
      · split
        · next same =>
            -- The replaced engine stood under the same name, so that no lookup found it by another
            rw [lookup_cons, lookup_cons, ← same]
            by_cases hn : key = name <;> simp only [hn, if_true, if_false]
        · next differ =>
            rw [lookup_cons, lookup_cons, ih]
            by_cases hn : key = name
            · have other : first.1 ≠ name := fun hf => differ (hn.trans hf.symm)
              simp only [hn, other, if_true, if_false]
            · simp only [hn, if_false]

/-- Registering changes what is found under the engine's own name only. -/
theorem find?_add (registry : Registry) (engine : Engine) (name : String)
    : (registry.add engine).find? name
      = if engine.name = name then some engine else registry.find? name :=
  lookup_insertSorted engine.name engine registry.engines name

theorem exists_find?_add {registry : Registry} {name : String} (engine : Engine)
    (known : ∃ found, registry.find? name = some found)
    : ∃ found, (registry.add engine).find? name = some found := by
  rw [find?_add]
  by_cases hn : engine.name = name
  · exact ⟨engine, if_pos hn⟩
  · rwa [if_neg hn]

/-- The selection names a registered engine, by induction on how the registry came about. -/
theorem Reachable.exists_find?_selection {registry : Registry} (reached : registry.Reachable)
    : ∀ selection, registry.selection = some selection →
        ∃ engine, registry.find? selection.name = some engine := by
  induction reached with
  | empty => exact fun selection chosen => by cases chosen
  | @register registry reached engine ih =>
      intro selection chosen
      cases hs : registry.selection with
      | none =>
          -- The first engine to be registered is selected by default
          have first : Selection.byDefault engine.name = selection := by
            simpa [add, hs] using chosen
          rw [← first, find?_add]
          exact ⟨engine, if_pos rfl⟩
      | some earlier =>
          have kept : earlier = selection := by simpa [add, hs] using chosen
          exact exists_find?_add engine (ih selection (kept ▸ hs))
  | select _ selected _ =>
      intro selection chosen
      obtain ⟨known, rfl⟩ := result_select_eq_ok_iff.mp selected
      have same : Selection.chosen _ = selection := Option.some.inj chosen
      rw [← same]
      exact known

/-- Something is selected once an engine is registered, by induction on how the registry came
about.
-/
theorem Reachable.exists_selection {registry : Registry} (reached : registry.Reachable)
    (nonempty : registry.engines ≠ [])
    : ∃ selection, registry.selection = some selection := by
  cases reached with
  | empty => exact absurd rfl nonempty
  | register _ engine => exact ⟨_, rfl⟩
  | select _ selected =>
      obtain ⟨-, rfl⟩ := result_select_eq_ok_iff.mp selected
      exact ⟨_, rfl⟩

/-- A registry with any engine has an active one. -/
theorem Reachable.exists_active {registry : Registry} (reached : registry.Reachable)
    (nonempty : registry.engines ≠ [])
    : ∃ engine, registry.active = .ok engine := by
  obtain ⟨selection, selected⟩ := reached.exists_selection nonempty
  obtain ⟨engine, found⟩ := reached.exists_find?_selection selection selected
  exact ⟨engine, by simp [active, selected, found]⟩

end ClassDiagram.Registry
