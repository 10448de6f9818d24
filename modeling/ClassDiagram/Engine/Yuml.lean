import ClassDiagram.Engine
import ClassDiagram.Yuml.Client

/-! The yUML notation: nodes and edges in brackets, separated by commas. Diagrams are sent
to a service, and what is delivered is the URL of the image.
-/

namespace ClassDiagram.Yuml

/-- A node: a coloured box, and a box with its name, properties and methods. -/
def node (background name : String) (properties methods : List Member) : String :=
  "[" ++ name ++ "\x7bbg:" ++ background ++ "\x7d][" ++ name
    ++ "|" ++ Text.concat (properties.map fun member => member.name ++ ";")
    ++ "|" ++ Text.concat (methods.map fun member => member.name ++ "();")
    ++ "]"

def connector (parent child : String) : String :=
  "[" ++ parent ++ "]^-[" ++ child ++ "]"

/-- Sends a body to the service, then writes or prints the URL of the image, and opens the image if
that is wanted. -/
def deliver (client : Client) (body : String) (destination : Destination) : Action Unit := do
  let url ← client.upload body
  Action.tell
    {
      level := .info
      target := .yuml
      message := "yUML diagram published"
      fields := [⟨"url", .plain url⟩]
    }
  match destination.file with
  | some path =>
    Action.writeFile path (url ++ "\n")
    Action.tell
      {
        level := .debug
        target := .yuml
        message := "Wrote yUML diagram URL"
        fields := [⟨"path", .plain path⟩]
      }
  | none => Action.print (url ++ "\n")
  if destination.viewer then Action.openViewer url

/-- The engine for the notation, with the service it sends diagrams to. -/
def engine (client : Client) : Engine where
  name := "yuml"
  inheritance := connector
  classNode := node "skyblue"
  interfaceNode := node "palegreen"
  separator := ","
  deliver := deliver client

end ClassDiagram.Yuml
