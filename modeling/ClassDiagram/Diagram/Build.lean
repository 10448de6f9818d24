import ClassDiagram.Declaration
import ClassDiagram.Diagram
import ClassDiagram.Log.Report

/-! Building a diagram from declarations. Per file the classes come first, then the
interfaces, then the edges of the classes; nothing is merged, sorted or looked up by name.
-/

namespace ClassDiagram

/-- What to do with members and supertypes that have no resolved symbol. -/
inductive Policy where
  | drop
  | reject
  deriving DecidableEq, Repr, Inhabited

/-- What an unresolved symbol leads to: a note that it is left out, or a failure. -/
def Policy.unresolved (policy : Policy) (owner : String) (kind : SymbolKind) : Report Unit :=
  match policy with
  | drop =>
    .tell
      {
        level := .debug
        target := .declarations
        message := "Dropping unresolved symbol"
        fields := [⟨"owner", .text owner⟩, ⟨"kind", .plain kind.text⟩]
      }
  | reject => .fail (.unresolvedSymbol owner kind)

namespace Declaration

/-- The owner named when a declaration itself has no symbol. -/
def anonymous : String := "<anonymous>"

/-- The name of a declaration, which no policy lets be absent. -/
def Body.name (body : Body) : Report String :=
  match body.symbol with
  | some name => pure name
  | none => .fail (.unresolvedSymbol anonymous .declaration)

/-- The drawn members of a type: those with a symbol, in order. -/
def members (policy : Policy) (owner : String) (kind : SymbolKind)
    : List Member → Report (List ClassDiagram.Member)
  | [] => pure []
  | ⟨some name, modifiers⟩ :: rest => do
    let drawn ← members policy owner kind rest
    pure (⟨name, Modifier.visibility modifiers⟩ :: drawn)
  | ⟨none, _⟩ :: rest => do
    policy.unresolved owner kind
    members policy owner kind rest

/-- The node of a declaration. -/
def Body.node (policy : Policy) (kind : Classifier.Kind) (body : Body) : Report Classifier := do
  let name ← body.name
  Report.within
    {
      level := .debug
      target := .declarations
      name := "normalize_" ++ kind.text
      fields := [⟨kind.text, .text name⟩]
    }
    do
      let properties ← members policy name .property body.properties
      let methods ← members policy name .method body.methods
      Report.tell
        {
          level := .debug
          target := .declarations
          message := "Normalized " ++ kind.text
          fields := [⟨"properties", .number properties.length⟩, ⟨"methods", .number methods.length⟩]
        }
      pure { name, kind, properties, methods }

def Class.node (policy : Policy) (decl : Class) : Report Classifier :=
  decl.toBody.node policy .classNode

def Interface.node (policy : Policy) (decl : Interface) : Report Classifier :=
  decl.toBody.node policy .interfaceNode

/-- The edges from a type to those of its supertypes that are resolved. -/
def edgesTo (policy : Policy) (child : String) : List Supertype → Report (List Inheritance)
  | [] => pure []
  | ⟨some parent⟩ :: rest => do
    Report.tell
      {
        level := .trace
        target := .declarations
        message := "Heritage edge"
        fields := [⟨"parent", .text parent⟩, ⟨"child", .text child⟩]
      }
    let edges ← edgesTo policy child rest
    pure (⟨parent, child⟩ :: edges)
  | ⟨none⟩ :: rest => do
    policy.unresolved child .heritage
    edgesTo policy child rest

/-- The edges of a class: to its superclass, then to its interfaces in order. -/
def Class.edges (policy : Policy) (decl : Class) : Report (List Inheritance) := do
  let child ← decl.toBody.name
  edgesTo policy child decl.supertypes

/-- The entries of a file: classes, interfaces, then the edges of the classes. -/
def File.entries (policy : Policy) (file : File) : Report (List Entry) :=
  Report.within
    {
      level := .debug
      target := .diagram
      name := "source_file"
      fields := [⟨"path", .text (file.path.getD "-")⟩]
    }
    do
      let classes ← Report.collect (Class.node policy) file.classes
      let interfaces ← Report.collect (Interface.node policy) file.interfaces
      let edges ← Report.collect (Class.edges policy) file.classes
      pure ((classes ++ interfaces).map .node ++ edges.flatten.map .edge)

def Dump.diagram (policy : Policy) (dump : Dump) : Report Diagram :=
  Report.within
    {
      level := .info
      target := .diagram
      name := "build_model"
      fields := [⟨"files", .number dump.files.length⟩, ⟨"declarations", .number dump.count⟩]
    }
    do
      let entries ← Report.collect (File.entries policy) dump.files
      let diagram := Diagram.ofEntries entries.flatten
      Report.tell
        {
          level := .debug
          target := .diagram
          message := "Model built"
          fields := [⟨"types", .number diagram.nodes.size⟩, ⟨"edges", .number diagram.edges.size⟩]
        }
      pure diagram

end Declaration

end ClassDiagram
