import ClassDiagram.Failure

/-! The built-in notations by name.
-/

namespace ClassDiagram

/-- The built-in notations. -/
inductive EngineKind where
  | mermaid
  | yuml
  deriving DecidableEq, Repr, Inhabited

namespace EngineKind

def text : EngineKind → String
  | mermaid => "mermaid"
  | yuml => "yuml"

def all : List EngineKind := [mermaid, yuml]

/-- The notation with the given name, in small or capital letters. -/
def ofText (text : String) : Except Failure EngineKind :=
  match all.find? fun kind => kind.text == text.toLower with
  | some kind => .ok kind
  | none => .error (.unknownEngine text (all.map EngineKind.text))

end EngineKind

end ClassDiagram
