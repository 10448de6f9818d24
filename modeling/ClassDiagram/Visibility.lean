/-! Visibility of members and the modifiers it is read from. A list of modifiers is
scanned in order and the last one that restricts access decides.
-/

namespace ClassDiagram

/-- Who may use a member. -/
inductive Visibility where
  | publicAccess
  | protectedAccess
  | privateAccess
  deriving DecidableEq, Repr, Inhabited

namespace Visibility

/-- The word a declaration uses for a visibility. -/
def text : Visibility → String
  | publicAccess => "public"
  | protectedAccess => "protected"
  | privateAccess => "private"

/-- The sign a class diagram puts before a member. -/
def marker : Visibility → Char
  | publicAccess => '+'
  | protectedAccess => '#'
  | privateAccess => '-'

/-- All visibilities, from the widest to the narrowest. -/
def all : List Visibility := [publicAccess, protectedAccess, privateAccess]

end Visibility

/-- The words with a meaning of their own among the modifiers of a member. -/
inductive Keyword where
  | access (visibility : Visibility)
  | static
  | readonly
  | abstract
  deriving DecidableEq, Repr

namespace Keyword

def text : Keyword → String
  | access visibility => visibility.text
  | static => "static"
  | readonly => "readonly"
  | abstract => "abstract"

def all : List Keyword := Visibility.all.map access ++ [static, readonly, abstract]

/-- The keyword with a given spelling. -/
def ofText? (text : String) : Option Keyword :=
  all.find? (fun keyword => keyword.text == text)

end Keyword

/-- A modifier of a member: a keyword, or any other text. -/
inductive Modifier where
  | keyword (keyword : Keyword)
  | other (text : String)
  deriving DecidableEq, Repr

namespace Modifier

/-- The text of a modifier as a declaration shows it. -/
def text : Modifier → String
  | keyword word => word.text
  | other text => text

/-- A text read as a modifier: a keyword where it spells one. -/
def ofText (text : String) : Modifier :=
  match Keyword.ofText? text with
  | some word => keyword word
  | none => other text

/-- Visibility after one more modifier: only `private` and `protected` change it. -/
def restrict (current : Visibility) : Modifier → Visibility
  | keyword (.access .privateAccess) => .privateAccess
  | keyword (.access .protectedAccess) => .protectedAccess
  | _ => current

/-- Visibility of a member with the given modifiers. -/
def visibility (modifiers : List Modifier) : Visibility :=
  modifiers.foldl restrict .publicAccess

end Modifier

end ClassDiagram
