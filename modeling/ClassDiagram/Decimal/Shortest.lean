/-! The fewest decimal digits that identify a binary floating point number. A number
stands for all reals that round to it, and a decimal identifies it when it lies among
them.
-/

namespace ClassDiagram.Decimal

/-- The positive number `mantissa * 2 ^ exponent`, with the interval of reals that round to it. -/
structure Binary where
  mantissa : Nat
  exponent : Int
  /-- Whether the next smaller number is only half as far away as the next larger one. -/
  closeBelow : Bool := false

/-- The positive number `digits * 10 ^ exponent`. -/
structure Scientific where
  digits : Nat
  exponent : Int
  deriving DecidableEq, Repr

namespace Binary

/-- Numerator of the number times four over a power of ten, with `scale` for the number. -/
def scaled (number : Binary) (scale : Nat) (exponent : Int) : Nat :=
  scale * Nat.pow 2 (number.exponent - 2).toNat * Nat.pow 10 (-exponent).toNat

/-- Denominator that goes with `scaled`. -/
def unit (number : Binary) (exponent : Int) : Nat :=
  Nat.pow 2 (2 - number.exponent).toNat * Nat.pow 10 exponent.toNat

/-- Whether `digits * 10 ^ exponent` rounds to the number; the ends do when the mantissa is even. -/
def identifiedBy (number : Binary) (decimal : Scientific) : Bool :=
  let lower := number.scaled (4 * number.mantissa - if number.closeBelow then 1 else 2)
    decimal.exponent
  let upper := number.scaled (4 * number.mantissa + 2) decimal.exponent
  let point := decimal.digits * number.unit decimal.exponent
  if number.mantissa % 2 = 0 then lower ≤ point && point ≤ upper else lower < point && point < upper

/-- The multiple of `10 ^ exponent` that identifies the number and is nearest to it, if any. -/
def onGrid? (number : Binary) (exponent : Int) : Option Scientific :=
  let exact := number.scaled (4 * number.mantissa) exponent
  let unit := number.unit exponent
  let below : Scientific := ⟨exact / unit, exponent⟩
  let above : Scientific := ⟨exact / unit + 1, exponent⟩
  match number.identifiedBy below, number.identifiedBy above with
  | true, true =>
    let rest := exact % unit
    let nearerBelow := 2 * rest < unit || (2 * rest == unit && below.digits % 2 == 0)
    some (if nearerBelow then below else above)
  | true, false => some below
  | false, true => some above
  | false, false => none

/-- The power of ten of the leading digit. -/
def magnitude (number : Binary) : Int :=
  let whole :=
    number.mantissa * Nat.pow 2 number.exponent.toNat / Nat.pow 2 (-number.exponent).toNat
  if 0 < whole then
    ((Nat.toDigits 10 whole).length : Int) - 1
  else
    let reaches (places : Nat) : Bool :=
      Nat.pow 2 (-number.exponent).toNat ≤ number.mantissa * Nat.pow 10 places
    Int.negOfNat (((List.range 400).find? reaches).getD 0)

/-- The decimal with the fewest digits that identifies the number; seventeen always suffice. -/
def shortest (number : Binary) : Scientific :=
  let grids := (List.range 18).map fun (count : Nat) => number.magnitude - count
  (grids.findSome? number.onGrid?).getD ⟨number.mantissa, number.exponent⟩

end Binary

/-- How numbers are written. -/
structure Layout where
  /-- The least power of ten of a leading digit for which no exponent is written. -/
  leastPositional : Int
  /-- The greatest power of ten of a leading digit for which no exponent is written. -/
  greatestPositional : Int

namespace Layout

/-- Text of a positive decimal. -/
def write (layout : Layout) (decimal : Scientific) : String :=
  let written := Nat.toDigits 10 decimal.digits
  let power := decimal.exponent + written.length - 1
  let digits := (written.reverse.dropWhile (· == '0')).reverse
  if layout.leastPositional ≤ power && power ≤ layout.greatestPositional then
    if power < 0 then
      String.ofList ("0.".toList ++ List.replicate (-power - 1).toNat '0' ++ digits)
    else
      let places := power.toNat + 1
      let whole := digits.take places ++ List.replicate (places - digits.length) '0'
      let fraction := if digits.length ≤ places then ['0'] else digits.drop places
      String.ofList (whole ++ '.' :: fraction)
  else
    let fraction := if digits.length ≤ 1 then [] else '.' :: digits.drop 1
    let sign := if power < 0 then "e-" else "e+"
    String.ofList (digits.take 1 ++ fraction) ++ sign ++ toString power.natAbs

/-- Text of a finite floating point number, zero included. -/
def writeFloat (layout : Layout) (value : Float) : String :=
  let bits : Nat := value.toBits.toNat
  let sign := if bits < Nat.pow 2 63 then "" else "-"
  let biased : Nat := bits / Nat.pow 2 52 % Nat.pow 2 11
  let stored : Nat := bits % Nat.pow 2 52
  if biased == 0 && stored == 0 then
    sign ++ "0.0"
  else if biased = 0 then
    sign ++ layout.write (Binary.shortest ⟨stored, -1074, false⟩)
  else
    sign ++ layout.write
      (Binary.shortest ⟨Nat.pow 2 52 + stored, (biased : Int) - 1075, stored == 0 && 1 < biased⟩)

end Layout

end ClassDiagram.Decimal
