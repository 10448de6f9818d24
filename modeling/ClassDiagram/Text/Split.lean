/-! Splitting text at a character, and joining it again.
-/

namespace ClassDiagram.Text

/-- The pieces between occurrences of a character; a text without one is a single piece. -/
def split (separator : Char) : List Char → List (List Char)
  | [] => [[]]
  | c :: rest =>
    match split separator rest with
    | [] => []
    | piece :: pieces => if c = separator then [] :: piece :: pieces else (c :: piece) :: pieces

/-- Pieces of text with a separator between each two. -/
def join (separator : String) : List String → String
  | [] => ""
  | [piece] => piece
  | piece :: rest => piece ++ separator ++ join separator rest

/-- Pieces of text one after another. -/
def concat (pieces : List String) : String :=
  join "" pieces

/-- The text with each occurrence of a nonempty pattern replaced, from the left on. -/
def replaceAll (pattern replacement : List Char) (text : List Char) : List Char :=
  match text with
  | [] => []
  | c :: rest =>
    if pattern.isPrefixOf (c :: rest) && !pattern.isEmpty then
      replacement ++ replaceAll pattern replacement (rest.drop (pattern.length - 1))
    else
      c :: replaceAll pattern replacement rest
termination_by text.length
decreasing_by
  · simp only [List.length_drop, List.length_cons]
    omega
  · exact Nat.lt_succ_self _

end ClassDiagram.Text
