import ClassDiagram.Engine

/-! The Mermaid notation: each class is a block with one line per member, each edge is a
line.
-/

namespace ClassDiagram.Mermaid

/-- A line of a block. -/
def line (text : String) : String :=
  "\t" ++ text ++ "\n"

def propertyLine (member : Member) : String :=
  line (member.visibility.marker.toString ++ member.name)

def methodLine (member : Member) : String :=
  line (member.visibility.marker.toString ++ member.name ++ "()")

/-- The block of a node; the stereotype lines come before its members. -/
def block (name : String) (stereotypes : List String) (properties methods : List Member) : String :=
  "class " ++ name ++ " \x7b\n"
    ++ Text.concat (stereotypes.map fun stereotype => line ("<<" ++ stereotype ++ ">>"))
    ++ Text.concat (properties.map propertyLine)
    ++ Text.concat (methods.map methodLine)
    ++ "\x7d\n"

def connector (parent child : String) : String :=
  parent ++ " <|-- " ++ child ++ "\n"

/-- A body with the line that every diagram starts with. -/
def document (body : String) : String :=
  "classDiagram\n" ++ body

/-- Writes or prints the document of a body. -/
def deliver (body : String) (destination : Destination) : Action Unit := do
  let text := document body
  match destination.file with
  | some path =>
    Action.writeFile path text
    Action.tell
      {
        level := .info
        target := .mermaid
        message := "Wrote Mermaid diagram"
        fields := [⟨"path", .plain path⟩, ⟨"bytes", .number text.utf8ByteSize⟩]
      }
  | none =>
    Action.print text
    Action.tell
      {
        level := .debug
        target := .mermaid
        message := "Printed Mermaid diagram"
        fields := [⟨"bytes", .number text.utf8ByteSize⟩]
      }

def engine : Engine where
  name := "mermaid"
  inheritance := connector
  classNode name := block name []
  interfaceNode name := block name ["interface"]
  separator := ""
  deliver := deliver

end ClassDiagram.Mermaid
