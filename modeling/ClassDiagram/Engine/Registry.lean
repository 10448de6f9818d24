import ClassDiagram.Engine.Kind
import ClassDiagram.Engine.Mermaid
import ClassDiagram.Engine.Yuml

/-! Engines by name, and the one that is active. The first engine registered is active
until another is selected; an engine takes the place of an earlier one with its name.
-/

namespace ClassDiagram

/-- How the active engine was chosen. -/
inductive Selection where
  /-- The engine was registered first. -/
  | byDefault (name : String)
  /-- The engine was asked for. -/
  | chosen (name : String)
  deriving DecidableEq, Repr

def Selection.name : Selection → String
  | byDefault name => name
  | chosen name => name

/-- Engines under the names that they are found by, sorted by these, and the selection. -/
structure Registry where
  engines : List (String × Engine) := []
  selection : Option Selection := none

namespace Registry

def empty : Registry := {}

/-- Names of the engines, sorted. -/
def names (registry : Registry) : List String :=
  registry.engines.map Prod.fst

def find? (registry : Registry) (name : String) : Option Engine :=
  registry.engines.lookup name

/-- Puts an engine under a name at its place among engines sorted by their names. -/
def insertSorted (name : String) (engine : Engine)
    : List (String × Engine) → List (String × Engine)
  | [] => [(name, engine)]
  | first :: rest =>
    if name < first.1 then (name, engine) :: first :: rest
    else if name = first.1 then (name, engine) :: rest
    else first :: insertSorted name engine rest

/-- The registry with one more engine, under the engine's own name. -/
def add (registry : Registry) (engine : Engine) : Registry where
  engines := insertSorted engine.name engine registry.engines
  selection := some (registry.selection.getD (.byDefault engine.name))

def register (registry : Registry) (engine : Engine) : Report Registry := do
  Report.tell
    {
      level := .debug
      target := .registry
      message := "Registering template engine"
      fields := [⟨"engine", .plain engine.name⟩]
    }
  pure (registry.add engine)

/-- Makes the engine with the given name active. -/
def select (registry : Registry) (name : String) : Report Registry := do
  match registry.find? name with
  | none => .fail (.unknownEngine name registry.names)
  | some _ =>
    Report.tell
      {
        level := .info
        target := .registry
        message := "Selected template engine"
        fields := [⟨"engine", .text name⟩]
      }
    pure { registry with selection := some (.chosen name) }

/-- The name shown when no engine is active. -/
def noName : String := "<none>"

def active (registry : Registry) : Except Failure Engine :=
  match registry.selection.bind fun selection => registry.find? selection.name with
  | some engine => .ok engine
  | none => .error (.unknownEngine noName registry.names)

/-- What the active engine puts between fragments. -/
def separator (registry : Registry) : Except Failure String :=
  registry.active.map (·.separator)

def inheritance (registry : Registry) (parent child : String) : Except Failure String :=
  registry.active.map (·.inheritance parent child)

def classNode (registry : Registry) (name : String) (properties methods : List Member)
    : Except Failure String :=
  registry.active.map (·.classNode name properties methods)

def interfaceNode (registry : Registry) (name : String) (properties methods : List Member)
    : Except Failure String :=
  registry.active.map (·.interfaceNode name properties methods)

def node (registry : Registry) (classifier : Classifier) : Except Failure String :=
  registry.active.map (·.node classifier)

/-- Delivers a diagram with the active engine. -/
def deliver (registry : Registry) (body : String) (destination : Destination) : Action Unit := do
  let engine ← Action.ofReport { result := registry.active }
  Action.within
    {
      level := .info
      target := .registry
      name := "finalize"
      fields := [⟨"engine", .text engine.name⟩, ⟨"body_len", .number body.utf8ByteSize⟩]
    }
    (engine.deliver body destination)

/-- The registry of the built-in notations. -/
def builtin : Report Registry := do
  let registry ← empty.register Mermaid.engine
  registry.register (Yuml.engine (.ofUrl Yuml.Client.publicUrl))

/-- The registry of the built-in notations with one of them active. -/
def ofKind (kind : EngineKind) : Report Registry := do
  let registry ← builtin
  registry.select kind.text

end Registry

end ClassDiagram
