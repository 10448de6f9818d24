/-! The ways in which drawing a diagram fails, and the one text for each.
-/

namespace ClassDiagram

/-- What kind of symbol could not be resolved. -/
inductive SymbolKind where
  | declaration
  | property
  | method
  | heritage
  deriving DecidableEq, Repr

def SymbolKind.text : SymbolKind → String
  | declaration => "declaration"
  | property => "property"
  | method => "method"
  | heritage => "heritage clause"

/-- Why no diagram was drawn or delivered. -/
inductive Failure where
  /-- A symbol of the named type is missing. -/
  | unresolvedSymbol (owner : String) (kind : SymbolKind)
  /-- No engine has the given name. -/
  | unknownEngine (name : String) (available : List String)
  /-- The named sink did not take the diagram. -/
  | sinkFailure (sink : String) (reason : String)
  /-- The declarations could not be read. -/
  | invalidInput (reason : String)
  /-- Some other input or output went wrong. -/
  | inputOutput (reason : String)
  deriving DecidableEq, Repr

/-- The text shown for a failure. -/
def Failure.message : Failure → String
  | unresolvedSymbol owner kind => "Unresolved " ++ kind.text ++ " symbol in '" ++ owner ++ "'"
  | unknownEngine name available =>
    "Unknown engine: " ++ name ++ " (available: " ++ ", ".intercalate available ++ ")"
  | sinkFailure sink reason => "Sink failure (" ++ sink ++ "): " ++ reason
  | invalidInput reason => "Invalid input: " ++ reason
  | inputOutput reason => "IO error: " ++ reason

end ClassDiagram
