import ClassDiagram.Text.CombiningClass
import ClassDiagram.Text.Composite

/-! The composed form of a text: marks stand in their fixed order, and what a composite
character can stand for is written with it.
-/

namespace ClassDiagram.Text

/-- A character taken apart until no composite is left; `depth` bounds the number of marks that are
taken from it. -/
def takenApart (depth : Nat) (c : Char) : List Char :=
  match depth, parts? c with
  | depth + 1, some (first, last) => takenApart depth first ++ [last]
  | _, _ => [c]

/-- No composite stands for more than one character with three marks. -/
def mostMarks : Nat := 3

/-- A character before a text in fixed order, moved behind the marks of smaller classes. -/
def insertMark (c : Char) : List Char → List Char
  | [] => [c]
  | next :: rest =>
    if 0 < combiningClass next && combiningClass next < combiningClass c then
      next :: insertMark c rest
    else c :: next :: rest

/-- The text with the marks of each character in their fixed order. -/
def ordered (text : List Char) : List Char :=
  text.foldr insertMark []

/-- Composes a text in fixed order that follows a character and those of its marks that it does not
compose with. A mark composes with the character only across marks of smaller classes. -/
def composeOnto (base : Char) (marks : List Char) : List Char → List Char
  | [] => base :: marks
  | c :: rest =>
    let reached := marks.getLast?.all fun mark => combiningClass mark < combiningClass c
    match if reached then composite? base c else none with
    | some whole => composeOnto whole marks rest
    | none =>
      if combiningClass c = 0 then base :: marks ++ composeOnto c [] rest
      else composeOnto base (marks ++ [c]) rest

/-- The composed form of a text. -/
def composed (text : List Char) : List Char :=
  match ordered (text.flatMap (takenApart mostMarks)) with
  | [] => []
  | first :: rest => composeOnto first [] rest

end ClassDiagram.Text
