import ClassDiagram.Text.Hex

/-! Form encoding: letters, digits and four signs stand for themselves, a space is a plus
sign, and all other bytes are written as a percent sign with two hexadecimal digits.
-/

namespace ClassDiagram.Text

/-- Whether a byte stands for itself. -/
def isFormSafe (c : Char) : Bool :=
  c.isAlphanum || c = '*' || c = '-' || c = '.' || c = '_'

/-- The written form of a byte. -/
def formByte (byte : UInt8) : List Char :=
  let c := Char.ofNat byte.toNat
  if isFormSafe c then [c]
  else if c = ' ' then ['+']
  else ['%', hexDigit (byte.toNat / 16), hexDigit (byte.toNat % 16)]

/-- The written form of a text. -/
def formEncode (text : String) : String :=
  String.ofList (text.toUTF8.data.toList.flatMap formByte)

/-- The written form of a form with one field. -/
def formField (name value : String) : String :=
  formEncode name ++ "=" ++ formEncode value

end ClassDiagram.Text
