/-! Reading bytes as UTF-8 without failing: each longest part that starts a character but
does not complete it is replaced by one replacement character.
-/

namespace ClassDiagram.Text

/-- Stands for bytes that are no character. -/
def replacementChar : Char := '\uFFFD'

/-- A character of which some bytes were read: the bits so far, the range that the next byte has to
lie in, and the number of bytes after that one. -/
structure PartialChar where
  bits : Nat
  least : Nat
  greatest : Nat
  more : Nat

/-- What one byte between characters leads to. -/
def startChar (byte : Nat) : List Char × Option PartialChar :=
  if byte < 0x80 then ([.ofNat byte], none)
  else if byte < 0xC2 then ([replacementChar], none)
  else if byte < 0xE0 then ([], some ⟨byte - 0xC0, 0x80, 0xBF, 0⟩)
  else if byte = 0xE0 then ([], some ⟨0, 0xA0, 0xBF, 1⟩)
  else if byte = 0xED then ([], some ⟨0xD, 0x80, 0x9F, 1⟩)
  else if byte < 0xF0 then ([], some ⟨byte - 0xE0, 0x80, 0xBF, 1⟩)
  else if byte = 0xF0 then ([], some ⟨0, 0x90, 0xBF, 2⟩)
  else if byte < 0xF4 then ([], some ⟨byte - 0xF0, 0x80, 0xBF, 2⟩)
  else if byte = 0xF4 then ([], some ⟨4, 0x80, 0x8F, 2⟩)
  else ([replacementChar], none)

/-- The characters that bytes stand for, after some bytes of a character. -/
def decodeFrom : Option PartialChar → List UInt8 → List Char
  | none, [] => []
  | some _, [] => [replacementChar]
  | none, byte :: rest =>
    let (chars, next) := startChar byte.toNat
    chars ++ decodeFrom next rest
  | some begun, byte :: rest =>
    if begun.least ≤ byte.toNat && byte.toNat ≤ begun.greatest then
      let bits := begun.bits * 64 + (byte.toNat - 0x80)
      match begun.more with
      | 0 => .ofNat bits :: decodeFrom none rest
      | more + 1 => decodeFrom (some ⟨bits, 0x80, 0xBF, more⟩) rest
    else
      let (chars, next) := startChar byte.toNat
      replacementChar :: chars ++ decodeFrom next rest

/-- The characters that bytes stand for. -/
def decodeLossy (bytes : ByteArray) : List Char :=
  decodeFrom none bytes.data.toList

end ClassDiagram.Text
