import ClassDiagram.Text.Range

/-! White space of all scripts, and trimming.
-/

namespace ClassDiagram.Text

/-- Ranges of the characters with the property `White_Space`. -/
def blankRanges : List (Nat × Nat) :=
  [
    (0x09, 0x0D), (0x20, 0x20), (0x85, 0x85), (0xA0, 0xA0), (0x1680, 0x1680), (0x2000, 0x200A),
    (0x2028, 0x2029), (0x202F, 0x202F), (0x205F, 0x205F), (0x3000, 0x3000)
  ]

def isBlank (c : Char) : Bool :=
  inRanges blankRanges c

/-- The text without white space at its ends. -/
def trim (text : List Char) : List Char :=
  ((text.dropWhile isBlank).reverse.dropWhile isBlank).reverse

end ClassDiagram.Text
