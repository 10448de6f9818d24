/-! Hexadecimal digits.
-/

namespace ClassDiagram.Text

/-- The value of a hexadecimal digit, in small or capital letters. -/
def hexValue? (c : Char) : Option Nat :=
  if '0' ≤ c && c ≤ '9' then some (c.toNat - '0'.toNat)
  else if 'a' ≤ c && c ≤ 'f' then some (c.toNat - 'a'.toNat + 10)
  else if 'A' ≤ c && c ≤ 'F' then some (c.toNat - 'A'.toNat + 10)
  else none

/-- The hexadecimal digit for a value below sixteen, with capital letters. -/
def hexDigit (value : Nat) : Char :=
  (Nat.digitChar value).toUpper

/-- Each value below sixteen is read back from its digit. -/
theorem hexValue?_hexDigit {value : Nat} (h : value < 16)
    : hexValue? (hexDigit value) = some value := by
  have all : ∀ value : Fin 16, hexValue? (hexDigit value.val) = some value.val := by decide
  exact all ⟨value, h⟩

end ClassDiagram.Text
