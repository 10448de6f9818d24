import ClassDiagram.Json.Value

/-! The value of a numeral. Digits are taken into 64 bits as long as they fit; what does
not fit only shifts the decimal point, and the value is then one product or quotient with
a power of ten.
-/

namespace ClassDiagram.Json

/-- The value of a numeral: an integer of 64 bits, or a floating point number. -/
inductive Number where
  | integer (value : Int)
  | floating (value : Float)

namespace Numeral

/-- Appends digits while the number fits into 64 bits; also returns the digits left over. -/
def append (significand : Nat) : List Digit → Nat × List Digit
  | [] => (significand, [])
  | digit :: rest =>
    if significand * 10 + digit < UInt64.size then append (significand * 10 + digit) rest
    else (significand, digit :: rest)

/-- The digits of a natural number. -/
def digitsOf (value : Nat) : List Digit :=
  (Nat.toDigits 10 value).map fun c => Digit.ofNat (c.toNat - '0'.toNat)

/-- The digits that count, and the power of ten that they count for. -/
def significand (numeral : Numeral) : Nat × Int :=
  let (start, dropped) := append 0 (digitsOf numeral.whole)
  let (full, unused) := append start numeral.fraction
  (full, (dropped.length : Int) - (numeral.fraction.length - unused.length))

/-- The number `significand * 10 ^ exponent`, unless it is too large. -/
def magnitude? (significand : Nat) (exponent : Int) : Option Float :=
  let start := significand.toUInt64.toFloat
  let power (places : Nat) : Float := Float.ofScientific 1 false places
  if 308 < exponent then
    if significand = 0 then some start else none
  else if 0 ≤ exponent then
    let value := start * power exponent.toNat
    if value.isInf then none else some value
  else if -308 ≤ exponent then
    some (start / power (-exponent).toNat)
  else if -616 ≤ exponent then
    some (start / power 308 / power (-exponent - 308).toNat)
  else
    some 0

/-- A float with the sign of the numeral. -/
def signed (numeral : Numeral) (value : Float) : Number :=
  .floating (if numeral.negative then -value else value)

/-- The exponent of ten after each digit of an exponent, unless it passes 31 bits, where the digits
not looked at are counted. -/
def exponentValue (value : Nat) : List Digit → Except Nat Nat
  | [] => .ok value
  | digit :: rest =>
    if value * 10 + digit < UInt32.size / 2 then exponentValue (value * 10 + digit) rest
    else .error rest.length

/-- The value of a numeral. A number out of range is found before the returned count of characters
at the end of the numeral. -/
def value (numeral : Numeral) : Except Nat Number :=
  let (significand, shift) := numeral.significand
  match numeral.exponent with
  | none =>
    if numeral.fraction.isEmpty && shift = 0 then
      if !numeral.negative then
        .ok (.integer significand)
      else if significand = 0 || UInt64.size / 2 < significand then
        .ok (numeral.signed significand.toUInt64.toFloat)
      else
        .ok (.integer (-(significand : Int)))
    else
      match magnitude? significand shift with
      | some value => .ok (numeral.signed value)
      | none => .error 0
  | some exponent =>
    match exponentValue exponent.leading exponent.further with
    | .error unread =>
      if significand = 0 || exponent.negative then .ok (numeral.signed 0) else .error unread
    | .ok places =>
      let power := if exponent.negative then shift - places else shift + places
      match magnitude? significand power with
      | some value => .ok (numeral.signed value)
      | none => .error 0

end Numeral

end ClassDiagram.Json
