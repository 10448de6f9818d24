import ClassDiagram.Proofs.Diagram.BuildOutcome
import ClassDiagram.Proofs.Engine.RegistrySelection
import ClassDiagram.Proofs.Engine.RenderedBodies

/-! Building a diagram fails at the first place of the visit where a name is missing against the
policy, and at no other. Rendering adds no failure when the registry has an engine.
-/

namespace ClassDiagram.Declaration

theorem exists_firstFailure_iff {policy : Policy} {visit : List Mention}
    : (∃ failure, firstFailure policy visit = some failure)
      ↔ ∃ mention ∈ visit, mention.offends policy := by
  rw [← Option.isSome_iff_exists, firstFailure, Option.isSome_map, List.find?_isSome]

/-- With an active engine, generating fails exactly when building does, and in the same way. -/
theorem result_generate_eq_error_iff {generator : Generator} {engine : Engine}
    (active : generator.registry.active = .ok engine) (dump : Dump) (failure : Failure)
    : (generator.generate dump).result = .error failure
      ↔ (dump.diagram generator.policy).result = .error failure := by
  rw [Generator.result_generate, active]
  cases (dump.diagram generator.policy).result with
  | error other =>
      change (.error other : Except Failure String) = .error failure ↔ _
      rw [Except.error.injEq, Except.error.injEq]
  | ok diagram =>
      change (.ok (engine.render diagram) : Except Failure String) = .error failure ↔ _
      simp only [reduceCtorEq]

/-- Building fails exactly when the visit meets a name that is missing against the policy, and the
failure names the first one. The same holds for a generator, and for its text if any engine is
registered. Witness: the outcome of building is that of its visit.
-/
theorem building_fails_at_first_offender (dump : Dump) (policy : Policy)
    : (∀ failure,
        (dump.diagram policy).result = .error failure
          ↔ firstFailure policy dump.visit = some failure)
      ∧ ((∃ failure, (dump.diagram policy).result = .error failure)
          ↔ ∃ mention ∈ dump.visit, mention.offends policy)
      ∧ ∀ generator : Generator,
          generator.policy = policy
          → (generator.diagram dump).result = (dump.diagram policy).result
            ∧ (generator.registry.Reachable
              → generator.registry.engines ≠ []
              → ∀ failure,
                  (generator.generate dump).result = .error failure
                    ↔ firstFailure policy dump.visit = some failure) := by
  have building (failure : Failure)
      : (dump.diagram policy).result = .error failure
        ↔ firstFailure policy dump.visit = some failure := by
    rw [dump.result_diagram]
    exact outcome_eq_error_iff
  refine ⟨building, ?_, ?_⟩
  · simp only [building, exists_firstFailure_iff]
  · rintro generator rfl
    refine ⟨rfl, ?_⟩
    intro reached nonempty failure
    obtain ⟨engine, active⟩ := reached.exists_active nonempty
    rw [result_generate_eq_error_iff active, building]

/-- A method of an interface is looked at before the superclass of a class that is declared earlier.
-/
theorem method_reported_before_superclass
    : let generator : Generator :=
        { registry := Registry.empty.add Mermaid.engine, policy := .reject }
      let dump : Dump :=
        {
          files :=
            [{
              classes := [{ symbol := some "A", superclass := some {} }]
              interfaces := [{ symbol := some "I", methods := [{}] }]
            }]
        }
      generator.registry.Reachable
      ∧ generator.registry.engines ≠ []
      ∧ (generator.generate dump).result = .error (.unresolvedSymbol "I" .method) := by
  intro generator dump
  have reached : generator.registry.Reachable := .register .empty Mermaid.engine
  have nonempty : generator.registry.engines ≠ [] := List.cons_ne_nil _ _
  have generating :=
    ((building_fails_at_first_offender dump .reject).2.2 generator rfl).2 reached nonempty
  have first : firstFailure .reject dump.visit = some (.unresolvedSymbol "I" .method) := by decide
  exact ⟨reached, nonempty, (generating _).mpr first⟩

end ClassDiagram.Declaration
