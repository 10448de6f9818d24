/-! Text of all scripts written in letters, digits and hyphens. The ASCII characters come
first; the others follow a hyphen as numbers, which say how far the place and the value of
each character are from those of the character before it. The digits of a number come least
first. A digit below the threshold of its position is the last one.
-/

namespace ClassDiagram.Text.Punycode

/-- A number, unless it is too large for 32 bits. -/
def bounded (number : Nat) : Option Nat :=
  if number < UInt32.size then some number else none

/-- The value of a digit: twenty-six letters, then ten digits. -/
def digit? (c : Char) : Option Nat :=
  if 'a' ≤ c && c ≤ 'z' then some (c.toNat - 'a'.toNat)
  else if '0' ≤ c && c ≤ '9' then some (c.toNat - '0'.toNat + 26)
  else none

/-- The threshold of a digit. Positions are counted in steps of 36; the bias is where thresholds
begin to grow. -/
def threshold (bias position : Nat) : Nat :=
  max 1 (min 26 (position - bias))

/-- The bias for numbers of about the size of a distance. -/
def biasFor (distance : Nat) : Nat :=
  if h : 455 < distance then
    36 + biasFor (distance / 35)
  else 36 * distance / (distance + 38)
termination_by distance
decreasing_by exact Nat.div_lt_self (Nat.zero_lt_of_lt h) (by decide)

/-- The bias after a number, for a text of `count` characters. The first number is expected to be
much larger than the others. -/
def nextBias (isFirst : Bool) (number count : Nat) : Nat :=
  let distance := if isFirst then number / 700 else number / 2
  biasFor (distance + distance / count)

/-- What is known between two digits. -/
structure Progress where
  /-- The characters so far. -/
  text : List Char
  /-- The least value of the next character. -/
  value : Nat := 0x80
  /-- The place from which the next number counts. -/
  place : Nat := 0
  bias : Nat := 72
  /-- The place and the number that was read of what is added to it. -/
  total : Nat := 0
  position : Nat := 36
  weight : Nat := 1

namespace Progress

/-- Whether the last number is complete. -/
def isComplete (progress : Progress) : Bool :=
  progress.position = 36

/-- Inserts the character that a complete number stands for. Numbers first go through the places of
the text, then through the values. -/
def insert (progress : Progress) (total : Nat) : Option Progress := do
  let count := progress.text.length + 1
  let value ← bounded (progress.value + total / count)
  if value.isValidChar then
    some
      {
        text := progress.text.insertIdx (total % count) (.ofNat value),
        value,
        place := total % count + 1,
        bias := nextBias (progress.place = 0) (total - progress.place) count,
        total := total % count + 1
      }
  else none

/-- Reads one digit. -/
def read (progress : Progress) (c : Char) : Option Progress := do
  let digit ← digit? c
  let total ← bounded (progress.total + digit * progress.weight)
  let threshold := threshold progress.bias progress.position
  if digit < threshold then progress.insert total
  else
    let weight ← bounded (progress.weight * (36 - threshold))
    some { progress with total, weight, position := progress.position + 36 }

end Progress

/-- The text that is written in letters, digits and hyphens; its ASCII characters end at the last
hyphen. -/
def decode? (written : List Char) : Option (List Char) := do
  let digits := (written.reverse.takeWhile (· ≠ '-')).reverse
  let plain := written.take (written.length - digits.length - 1)
  let progress ← digits.foldlM Progress.read { text := plain }
  if plain.isEmpty && digits.length < written.length then none
  else if plain.all (·.toNat < 0x80) && progress.isComplete then some progress.text
  else none

end ClassDiagram.Text.Punycode
