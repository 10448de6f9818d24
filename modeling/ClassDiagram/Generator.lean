import ClassDiagram.Diagram.Build
import ClassDiagram.Engine.Registry

/-! Drawing diagrams: from declarations over a diagram to its text, and to where it is
delivered.
-/

namespace ClassDiagram

/-- Engines, and what to do with unresolved symbols. -/
structure Generator where
  registry : Registry
  policy : Policy := .drop

namespace Generator

/-- A generator for one of the built-in notations. -/
def ofKind (kind : EngineKind) (policy : Policy) : Report Generator := do
  let registry ← Registry.ofKind kind
  pure { registry, policy }

def diagram (generator : Generator) (dump : Declaration.Dump) : Report Diagram :=
  dump.diagram generator.policy

/-- The text of a diagram in the active notation. -/
def render (generator : Generator) (diagram : Diagram) : Report String := do
  let engine ← { result := generator.registry.active }
  Report.within
    {
      level := .info
      target := .generator
      name := "render_model"
      fields := [⟨"engine", .text engine.name⟩]
    }
    do
      Report.tell
        {
          level := .debug
          target := .generator
          message := "Rendered fragments"
          fields := [⟨"fragments", .number diagram.entries.length⟩]
        }
      pure (engine.render diagram)

def generate (generator : Generator) (dump : Declaration.Dump) : Report String := do
  let diagram ← generator.diagram dump
  generator.render diagram

/-- Draws the diagram of declarations and delivers it. -/
def run (generator : Generator) (dump : Declaration.Dump) (destination : Destination)
    : Action Unit := do
  Action.tell
    { level := .info, target := .generator, message := "Starting diagram generation" }
  let active := (generator.registry.selection.map Selection.name).getD Registry.noName
  let body ← Action.ofReport <|
    Report.within
      {
        level := .info
        target := .generator
        name := "generate"
        fields := [⟨"engine", .text active⟩]
      }
      (generator.generate dump)
  generator.registry.deliver body destination
  Action.tell
    { level := .info, target := .generator, message := "Diagram generation completed" }

end Generator

end ClassDiagram
