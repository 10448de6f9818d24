import ClassDiagram.Generator
import ClassDiagram.Proofs.Log.ReportResults

/-! Bodies of diagrams as a generator renders them: the active engine decides the text. -/

namespace ClassDiagram

/-- Rendering fails only for want of an active engine, whose text it otherwise is. -/
@[simp] theorem Generator.result_render (generator : Generator) (diagram : Diagram)
    : (generator.render diagram).result
      = generator.registry.active.map (·.render diagram) := by
  rw [Generator.render, Report.result_bind]
  cases generator.registry.active <;> rfl

/-- With an active engine, rendering gives the text of that engine. -/
theorem Generator.result_render_of_active {generator : Generator} {engine : Engine}
    (active : generator.registry.active = .ok engine) (diagram : Diagram)
    : (generator.render diagram).result = .ok (engine.render diagram) := by
  rw [Generator.result_render, active]
  rfl

/-- Generating is building the diagram and rendering it. -/
@[simp] theorem Generator.result_generate (generator : Generator)
    (dump : Declaration.Dump)
    : (generator.generate dump).result
      = ((dump.diagram generator.policy).result
          >>= fun diagram => generator.registry.active.map (·.render diagram)) := by
  rw [Generator.generate, Report.result_bind]
  simp only [Generator.diagram, Generator.result_render]

end ClassDiagram
