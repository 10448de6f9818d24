import ClassDiagram.Delivery.World
import ClassDiagram.Diagram
import ClassDiagram.Text.Split

/-! Notations for class diagrams. An engine turns nodes and edges into text, one fragment
each, and delivers the text that they are joined to.
-/

namespace ClassDiagram

/-- The text of a node by one of two templates, for classes and for interfaces. -/
def Classifier.byKind (classifier : Classifier)
    (classNode interfaceNode : String → List Member → List Member → String)
    : String :=
  match classifier.kind with
  | .classNode => classNode classifier.name classifier.properties classifier.methods
  | .interfaceNode => interfaceNode classifier.name classifier.properties classifier.methods

/-- A notation and the way in which its diagrams are delivered. -/
structure Engine where
  name : String
  /-- An edge from a child to its parent. -/
  inheritance (parent child : String) : String
  /-- A class with its properties and methods. -/
  classNode (name : String) (properties methods : List Member) : String
  /-- An interface with its properties and methods. -/
  interfaceNode (name : String) (properties methods : List Member) : String
  /-- A node of either kind. An engine may have a way of its own here. -/
  node (classifier : Classifier) : String := classifier.byKind classNode interfaceNode
  /-- What stands between two fragments. -/
  separator : String
  /-- Delivers a whole diagram. -/
  deliver (body : String) (destination : Destination) : Action Unit

namespace Engine

/-- Nodes are drawn as classes and interfaces are. -/
def FollowsTemplates (engine : Engine) : Prop :=
  ∀ classifier, engine.node classifier = classifier.byKind engine.classNode engine.interfaceNode

def fragment (engine : Engine) : Entry → String
  | .node classifier => engine.node classifier
  | .edge edge => engine.inheritance edge.parent edge.child

/-- The text of a diagram: the fragments of its entries in order. -/
def render (engine : Engine) (diagram : Diagram) : String :=
  Text.join engine.separator (diagram.entries.map engine.fragment)

end Engine

end ClassDiagram
