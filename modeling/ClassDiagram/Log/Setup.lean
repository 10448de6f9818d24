import ClassDiagram.Log.Filter
import ClassDiagram.Log.Layout

/-! Choosing what is logged and how it is shown.
-/

namespace ClassDiagram.Log

/-- Why logging cannot be set up. -/
inductive SetupFault where
  | unknownFormat (text : String)
  /-- Logging was set up before, and that holds for the whole program. -/
  | alreadySet
  deriving DecidableEq, Repr

def SetupFault.message : SetupFault → String
  | unknownFormat text => "Invalid log format: " ++ Format.unknown text
  | alreadySet => "a global default trace dispatcher has already been set"

/-- What is logged and how it is shown. -/
structure Setup where
  filter : Filter
  format : Format
  deriving DecidableEq, Repr

namespace Setup

/-- The filter for a level text. A general filter text goes before it, but not before `off`; a text
that asks for no filter is passed over. -/
def chooseFilter (level : String) (general : Option String) : Filter :=
  if level = "off" then
    .upTo none
  else
    ((general.bind Filter.ofText?).or (Filter.ofText? level)).getD (.upTo (some .warn))

/-- Sets up logging by the texts for level and format. -/
def ofTexts (isSet : Bool) (level format : String) (general : Option String)
    : Except SetupFault Setup :=
  match Format.ofText? format with
  | none => .error (.unknownFormat format)
  | some format =>
    if isSet then .error .alreadySet else .ok { filter := chooseFilter level general, format }

end Setup

end ClassDiagram.Log
