/-! Ranges of characters, as tables of character properties list them.
-/

namespace ClassDiagram.Text

/-- Whether a character lies in one of the ranges. -/
def inRanges (ranges : List (Nat × Nat)) (c : Char) : Bool :=
  ranges.any fun range => range.1 ≤ c.toNat && c.toNat ≤ range.2

end ClassDiagram.Text
