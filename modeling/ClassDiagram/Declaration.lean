import ClassDiagram.Visibility

/-! Declarations as a source analysis reports them. Symbols that it could not resolve are
absent, and modifiers are unfiltered.
-/

namespace ClassDiagram.Declaration

/-- A property or method. -/
structure Member where
  /-- The name, if it could be resolved. -/
  symbol : Option String := none
  modifiers : List Modifier := []
  deriving DecidableEq, Repr, Inhabited

/-- The type named by an `extends` or `implements` clause. -/
structure Supertype where
  /-- The name, if the clause could be resolved. -/
  identifier : Option String := none
  deriving DecidableEq, Repr, Inhabited

/-- What class and interface declarations have in common. -/
structure Body where
  symbol : Option String := none
  properties : List Member := []
  methods : List Member := []
  deriving DecidableEq, Repr, Inhabited

structure Class extends Body where
  superclass : Option Supertype := none
  interfaces : List Supertype := []
  deriving DecidableEq, Repr, Inhabited

structure Interface extends Body where
  deriving DecidableEq, Repr, Inhabited

/-- The declarations of one source file, in source order. -/
structure File where
  path : Option String := none
  classes : List Class := []
  interfaces : List Interface := []
  deriving DecidableEq, Repr, Inhabited

/-- Everything that one diagram is drawn from. -/
structure Dump where
  files : List File := []
  deriving DecidableEq, Repr, Inhabited

namespace Body

def addProperty (body : Body) (property : Member) : Body :=
  { body with properties := body.properties ++ [property] }

def addMethod (body : Body) (method : Member) : Body :=
  { body with methods := body.methods ++ [method] }

end Body

namespace Class

def addProperty (decl : Class) (property : Member) : Class :=
  { decl with toBody := decl.toBody.addProperty property }

def addMethod (decl : Class) (method : Member) : Class :=
  { decl with toBody := decl.toBody.addMethod method }

/-- Sets the superclass in place of any earlier one. -/
def extending (decl : Class) (superclass : Supertype) : Class :=
  { decl with superclass := some superclass }

def implementing (decl : Class) (interface : Supertype) : Class :=
  { decl with interfaces := decl.interfaces ++ [interface] }

/-- The supertypes in the order in which their edges are drawn. -/
def supertypes (decl : Class) : List Supertype :=
  decl.superclass.toList ++ decl.interfaces

end Class

namespace Interface

def addProperty (decl : Interface) (property : Member) : Interface :=
  { decl with toBody := decl.toBody.addProperty property }

def addMethod (decl : Interface) (method : Member) : Interface :=
  { decl with toBody := decl.toBody.addMethod method }

end Interface

def File.count (file : File) : Nat :=
  file.classes.length + file.interfaces.length

def Dump.count (dump : Dump) : Nat :=
  dump.files.foldr (fun file count => file.count + count) 0

end ClassDiagram.Declaration
