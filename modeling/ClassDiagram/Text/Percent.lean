import ClassDiagram.Text.Hex

/-! Percent signs with two hexadecimal digits, which stand for bytes of text.
-/

namespace ClassDiagram.Text

/-- The bytes of a text in which percent signs with two digits stand for bytes. Other percent signs
stand for themselves. -/
def percentDecode : List Char → List UInt8
  | '%' :: high :: low :: rest =>
    match hexValue? high, hexValue? low with
    | some h, some l => .ofNat (16 * h + l) :: percentDecode rest
    | _, _ => 0x25 :: percentDecode (high :: low :: rest)
  | c :: rest => String.utf8EncodeChar c ++ percentDecode rest
  | [] => []

end ClassDiagram.Text
