import ClassDiagram.Visibility

/-! Class diagrams without a notation: nodes and inheritance edges in the order in which
they are drawn. Nodes and edges are kept apart, and a list of slots says how they
interleave; `Diagram.entries` is the one view in which all else is stated.
-/

namespace ClassDiagram

/-- A property or method of a node; which of the two is decided by the list it sits in. -/
structure Member where
  name : String
  visibility : Visibility := .publicAccess
  deriving DecidableEq, Repr, Inhabited

namespace Classifier

/-- The two kinds of nodes. -/
inductive Kind where
  | classNode
  | interfaceNode
  deriving DecidableEq, Repr, Inhabited

/-- The word for a kind of node. -/
def Kind.text : Kind → String
  | classNode => "class"
  | interfaceNode => "interface"

end Classifier

/-- A node: a class or interface with its members in order. -/
structure Classifier where
  name : String
  kind : Classifier.Kind
  properties : List Member := []
  methods : List Member := []
  deriving DecidableEq, Repr, Inhabited

/-- An edge from a type to one that it extends or implements. -/
structure Inheritance where
  parent : String
  child : String
  deriving DecidableEq, Repr, Inhabited

/-- What is drawn in one step. -/
inductive Entry where
  | node (classifier : Classifier)
  | edge (inheritance : Inheritance)
  deriving DecidableEq, Repr

namespace Entry

/-- One line that tells entries apart in a listing. -/
def summary : Entry → String
  | node classifier => classifier.kind.text ++ " " ++ classifier.name
  | edge inheritance => inheritance.child ++ " -> " ++ inheritance.parent

def node? : Entry → Option Classifier
  | node classifier => some classifier
  | edge _ => none

def edge? : Entry → Option Inheritance
  | node _ => none
  | edge inheritance => some inheritance

end Entry

namespace Diagram

/-- The place of an entry among the nodes or among the edges. -/
inductive Slot where
  | node (index : Nat)
  | edge (index : Nat)
  deriving DecidableEq, Repr

/-- A slot that names one of the given numbers of nodes and edges. -/
def Slot.InRange (nodes edges : Nat) : Slot → Prop
  | node index => index < nodes
  | edge index => index < edges

end Diagram

/-- A diagram under construction. -/
structure Diagram where
  nodes : Array Classifier := #[]
  edges : Array Inheritance := #[]
  /-- The order in which nodes and edges are drawn. -/
  order : Array Diagram.Slot := #[]
  inRange : ∀ slot ∈ order, slot.InRange nodes.size edges.size := by simp

namespace Diagram

/-- A slot stays in range when nodes and edges are added. -/
theorem Slot.InRange.mono {slot : Slot} {nodes edges nodes' edges' : Nat}
    (h : slot.InRange nodes edges) (hn : nodes ≤ nodes') (he : edges ≤ edges')
    : slot.InRange nodes' edges' := by
  cases slot
  · exact Nat.lt_of_lt_of_le h hn
  · exact Nat.lt_of_lt_of_le h he

def empty : Diagram := {}

def pushNode (diagram : Diagram) (classifier : Classifier) : Diagram where
  nodes := diagram.nodes.push classifier
  edges := diagram.edges
  order := diagram.order.push (.node diagram.nodes.size)
  inRange := by
    intro slot h
    rcases Array.mem_push.mp h with h | rfl
    · exact (diagram.inRange slot h).mono (by simp) (Nat.le_refl _)
    · simp [Slot.InRange]

def pushEdge (diagram : Diagram) (inheritance : Inheritance) : Diagram where
  nodes := diagram.nodes
  edges := diagram.edges.push inheritance
  order := diagram.order.push (.edge diagram.edges.size)
  inRange := by
    intro slot h
    rcases Array.mem_push.mp h with h | rfl
    · exact (diagram.inRange slot h).mono (Nat.le_refl _) (by simp)
    · simp [Slot.InRange]

def push (diagram : Diagram) : Entry → Diagram
  | .node classifier => diagram.pushNode classifier
  | .edge inheritance => diagram.pushEdge inheritance

/-- The diagram that draws the given entries in order. -/
def ofEntries (entries : List Entry) : Diagram :=
  entries.foldl push empty

/-- What a slot stands for. -/
def entry? (diagram : Diagram) : Slot → Option Entry
  | .node index => diagram.nodes[index]?.map .node
  | .edge index => diagram.edges[index]?.map .edge

/-- All entries in the order in which they are drawn. -/
def entries (diagram : Diagram) : List Entry :=
  diagram.order.toList.filterMap diagram.entry?

def isEmpty (diagram : Diagram) : Bool :=
  diagram.order.isEmpty

end Diagram

end ClassDiagram
