import ClassDiagram.Diagram
import ClassDiagram.Json.Reader

/-! The parts of a diagram as JSON. Every field has to be there.
-/

namespace ClassDiagram

open Json.Reader

def Visibility.reader : Json.Reader Visibility :=
  variant (all.map fun visibility => (visibility.text, visibility))

def Visibility.toJson (visibility : Visibility) : Json :=
  .text visibility.text

def Classifier.Kind.reader : Json.Reader Classifier.Kind :=
  variant ([classNode, interfaceNode].map fun kind => (kind.text, kind))

def Classifier.Kind.toJson (kind : Classifier.Kind) : Json :=
  .text kind.text

def Member.record : Record Member where
  name := "Member"
  start := default
  fields :=
    [
      .mandatory "name" text fun name member => { member with name },
      .mandatory "visibility" Visibility.reader fun visibility member => { member with visibility }
    ]

def Member.reader : Json.Reader Member :=
  Json.Reader.record Member.record

def Member.toJson (member : Member) : Json :=
  .object [("name", .text member.name), ("visibility", member.visibility.toJson)]

def Classifier.record : Record Classifier where
  name := "NormalizedType"
  start := default
  fields :=
    [
      .mandatory "name" text fun name node => { node with name },
      .mandatory "kind" Classifier.Kind.reader fun kind node => { node with kind },
      .mandatory "properties" (list Member.reader) fun properties node => { node with properties },
      .mandatory "methods" (list Member.reader) fun methods node => { node with methods }
    ]

def Classifier.reader : Json.Reader Classifier :=
  Json.Reader.record Classifier.record

def Classifier.toJson (node : Classifier) : Json :=
  .object
    [
      ("name", .text node.name),
      ("kind", node.kind.toJson),
      ("properties", .list (node.properties.map Member.toJson)),
      ("methods", .list (node.methods.map Member.toJson))
    ]

def Inheritance.record : Record Inheritance where
  name := "InheritanceEdge"
  start := default
  fields :=
    [
      .mandatory "parent" text fun parent edge => { edge with parent },
      .mandatory "child" text fun child edge => { edge with child }
    ]

def Inheritance.reader : Json.Reader Inheritance :=
  Json.Reader.record Inheritance.record

def Inheritance.toJson (edge : Inheritance) : Json :=
  .object [("parent", .text edge.parent), ("child", .text edge.child)]

end ClassDiagram
