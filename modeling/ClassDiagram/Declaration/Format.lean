import ClassDiagram.Declaration
import ClassDiagram.Failure
import ClassDiagram.Json.Reader

/-! Declarations as JSON. All fields may be left out; a record may also be written as the
list of its values in the order of its fields. What is written has every field.
-/

namespace ClassDiagram

namespace Modifier

/-- The modifier that a value spells: a string, or an object `{"keyword": null}`. -/
def ofJson? : Json → Option Modifier
  | .text text => some (ofText text)
  | .object [(key, .null)] => (Keyword.ofText? key).map keyword
  | _ => none

/-- Reads a modifier. The fault of a value that spells none has no place of its own. -/
def reader : Json.Reader Modifier := fun budget s => do
  let read ← Json.readAny budget s
  match ofJson? read.value with
  | some modifier => pure (read.map fun _ => modifier)
  | none => .error (.unplaced (.noVariant "Modifier") read.rest)

def toJson (modifier : Modifier) : Json :=
  .text modifier.text

end Modifier

namespace Declaration

open Json.Reader

def Member.record : Record Member where
  name := "MemberDeclaration"
  start := {}
  fields :=
    [
      .optional "symbol" (nullable text) fun symbol member => { member with symbol },
      .optional "modifiers" (list Modifier.reader) fun modifiers member => { member with modifiers }
    ]

def Member.reader : Json.Reader Member :=
  Json.Reader.record Member.record

def Supertype.record : Record Supertype where
  name := "HeritageReference"
  start := {}
  fields :=
    [
      .optional "identifier" (nullable text) fun identifier supertype =>
        { supertype with identifier }
    ]

def Supertype.reader : Json.Reader Supertype :=
  Json.Reader.record Supertype.record

def Class.record : Record Class where
  name := "ClassDeclaration"
  start := {}
  fields :=
    [
      .optional "symbol" (nullable text) fun symbol decl => { decl with symbol },
      .optional "properties" (list Member.reader) fun properties decl => { decl with properties },
      .optional "methods" (list Member.reader) fun methods decl => { decl with methods },
      .optional "extends" (nullable Supertype.reader) fun superclass decl =>
        { decl with superclass },
      .optional "implements" (list Supertype.reader) fun interfaces decl =>
        { decl with interfaces }
    ]

def Class.reader : Json.Reader Class :=
  Json.Reader.record Class.record

def Interface.record : Record Interface where
  name := "InterfaceDeclaration"
  start := {}
  fields :=
    [
      .optional "symbol" (nullable text) fun symbol decl => { decl with symbol },
      .optional "properties" (list Member.reader) fun properties decl => { decl with properties },
      .optional "methods" (list Member.reader) fun methods decl => { decl with methods }
    ]

def Interface.reader : Json.Reader Interface :=
  Json.Reader.record Interface.record

def File.record : Record File where
  name := "SourceFile"
  start := {}
  fields :=
    [
      .optional "path" (nullable text) fun path file => { file with path },
      .optional "classes" (list Class.reader) fun classes file => { file with classes },
      .optional "interfaces" (list Interface.reader) fun interfaces file =>
        { file with interfaces }
    ]

def File.reader : Json.Reader File :=
  Json.Reader.record File.record

def Dump.record : Record Dump where
  name := "DeclarationSet"
  start := {}
  fields := [.optional "files" (list File.reader) fun files dump => { dump with files }]

def Dump.reader : Json.Reader Dump :=
  Json.Reader.record Dump.record

def Dump.parse (text : String) : Except Failure Dump :=
  (Json.read Dump.reader text).mapError fun error => .invalidInput error.message

def Member.toJson (member : Member) : Json :=
  .object
    [
      ("symbol", .ofText? member.symbol),
      ("modifiers", .list (member.modifiers.map Modifier.toJson))
    ]

def Supertype.toJson (supertype : Supertype) : Json :=
  .object [("identifier", .ofText? supertype.identifier)]

/-- The members that class and interface declarations have in common, as JSON. -/
def Body.toMembers (body : Body) : List (String × Json) :=
  [
    ("symbol", .ofText? body.symbol),
    ("properties", .list (body.properties.map Member.toJson)),
    ("methods", .list (body.methods.map Member.toJson))
  ]

def Class.toJson (decl : Class) : Json :=
  .object
    (decl.toBody.toMembers
      ++ [
        ("extends", (decl.superclass.map Supertype.toJson).getD .null),
        ("implements", .list (decl.interfaces.map Supertype.toJson))
      ])

def Interface.toJson (decl : Interface) : Json :=
  .object decl.toBody.toMembers

def File.toJson (file : File) : Json :=
  .object
    [
      ("path", .ofText? file.path),
      ("classes", .list (file.classes.map Class.toJson)),
      ("interfaces", .list (file.interfaces.map Interface.toJson))
    ]

def Dump.toJson (dump : Dump) : Json :=
  .object [("files", .list (dump.files.map File.toJson))]

end Declaration

end ClassDiagram
