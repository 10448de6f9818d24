import ClassDiagram.Text.Split

/-! Directories and files, and how a path leads through them. Names are at most 255 bytes
long and paths less than 4096; a path that ends in a slash names a directory.
-/

namespace ClassDiagram.Files

/-- What a location holds. -/
inductive Node where
  | directory
  | file (content : ByteArray)

/-- The names on the way from the root. -/
abbrev Location := List String

/-- Directories and files by location; the root is always a directory. -/
structure Tree where
  nodes : List (Location × Node) := []
  /-- The directory where paths start that do not start with a slash. -/
  workingDirectory : Location := []

/-- Why a file cannot be read or written. -/
inductive Fault where
  | notFound
  | notDirectory
  | isDirectory
  | nameTooLong
  | nulInPath
  deriving DecidableEq, Repr

def Fault.message : Fault → String
  | notFound => "No such file or directory (os error 2)"
  | notDirectory => "Not a directory (os error 20)"
  | isDirectory => "Is a directory (os error 21)"
  | nameTooLong => "File name too long (os error 36)"
  | nulInPath => "file name contained an unexpected NUL byte"

/-- Where a path leads: to a directory that it names by dots, or to a name in a directory. -/
inductive Target where
  | directory
  | entry (location : Location) (name : String) (asDirectory : Bool)

namespace Tree

def find? (tree : Tree) (location : Location) : Option Node :=
  if location.isEmpty then some .directory
  else (tree.nodes.find? (·.1 == location)).map (·.2)

/-- Puts a node in place of what a location held. -/
def put (tree : Tree) (location : Location) (node : Node) : Tree :=
  { tree with nodes := (location, node) :: tree.nodes.filter (·.1 != location) }

/-- Whether a name is short enough. -/
def checkName (name : String) : Except Fault Unit :=
  if name.utf8ByteSize ≤ 255 then .ok () else .error .nameTooLong

/-- Goes from one directory to another by the given names. -/
def enter (tree : Tree) (location : Location) : List String → Except Fault Location
  | [] => .ok location
  | name :: rest =>
    if name = "." then
      enter tree location rest
    else if name = ".." then
      enter tree location.dropLast rest
    else do
      checkName name
      match tree.find? (location ++ [name]) with
      | none => .error .notFound
      | some (.file _) => .error .notDirectory
      | some .directory => enter tree (location ++ [name]) rest

/-- The directory where a path starts. -/
def start (tree : Tree) (path : List Char) : Location :=
  if path.head? == some '/' then [] else tree.workingDirectory

/-- Follows a path up to its last name. -/
def locate (tree : Tree) (path : String) : Except Fault Target := do
  if path.toList.contains '\x00' then
    .error .nulInPath
  else if path.isEmpty then
    .error .notFound
  else if 4096 ≤ path.utf8ByteSize then
    .error .nameTooLong
  else
    let pieces := Text.split '/' path.toList
    let names := (pieces.filter (!·.isEmpty)).map String.ofList
    let location ← tree.enter (tree.start path.toList) names.dropLast
    match names.getLast? with
    | none => .ok .directory
    | some name =>
      if name = "." || name = ".." then .ok .directory
      else .ok (.entry location name (pieces.getLast? == some []))

/-- The content of the file that a path names. -/
def read (tree : Tree) (path : String) : Except Fault ByteArray := do
  match ← tree.locate path with
  | .directory => .error .isDirectory
  | .entry location name asDirectory =>
    checkName name
    match tree.find? (location ++ [name]) with
    | none => .error .notFound
    | some .directory => .error .isDirectory
    | some (.file content) => if asDirectory then .error .notDirectory else .ok content

/-- Makes a path name a file with the given content, whether or not there was one before. -/
def write (tree : Tree) (path : String) (content : ByteArray) : Except Fault Tree := do
  match ← tree.locate path with
  | .directory => .error .isDirectory
  | .entry location name asDirectory =>
    if asDirectory then
      .error .isDirectory
    else
      checkName name
      match tree.find? (location ++ [name]) with
      | some .directory => .error .isDirectory
      | _ => .ok (tree.put (location ++ [name]) (.file content))

end Tree

end ClassDiagram.Files
