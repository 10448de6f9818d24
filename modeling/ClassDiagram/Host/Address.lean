import ClassDiagram.Text.Hex
import ClassDiagram.Text.Split

/-! Addresses of hosts, in four parts or in eight groups.
-/

namespace ClassDiagram.Host

/-- The value of a number in a given base. -/
def number? (base : Nat) (digits : List Char) : Option Nat :=
  digits.foldlM
    (fun value c => do
      let digit ← Text.hexValue? c
      if digit < base then some (value * base + digit) else none)
    0

/-- The value of one part of an IPv4 address: decimal, octal after `0` or hexadecimal after `0x`. -/
def ipv4Part? : List Char → Option Nat
  | [] => none
  | '0' :: 'x' :: digits | '0' :: 'X' :: digits => number? 16 digits
  | '0' :: digits => number? 8 digits
  | digits => number? 10 digits

/-- Whether the parts form an IPv4 address: the last one fills what the others leave. -/
def isIpv4 (parts : List (List Char)) : Bool :=
  match parts.mapM ipv4Part? with
  | none => false
  | some values =>
    values.length ≤ 4 && values.dropLast.all (· ≤ 255)
      && values.getLast?.any (· < Nat.pow 256 (5 - values.length))

/-- Whether a name has to be an IPv4 address because its last part looks like a number. -/
def endsInNumber (parts : List (List Char)) : Bool :=
  match parts.getLast? with
  | none => false
  | some part => (!part.isEmpty && part.all Char.isDigit) || (part.take 2 == ['0', 'x'] &&
      (part.drop 2).all fun c => (Text.hexValue? c).isSome)

/-- Whether a text is one of the groups of an IPv6 address. -/
def isGroup (group : List Char) : Bool :=
  !group.isEmpty && group.length ≤ 4 && group.all fun c => (Text.hexValue? c).isSome

/-- Whether a text is an IPv4 address of four decimal parts. -/
def isDottedQuad (text : List Char) : Bool :=
  let parts := Text.split '.' text
  parts.length = 4 && parts.all fun part =>
    !part.isEmpty && part.all Char.isDigit && (part.length = 1 || part.head? != some '0')
      && (number? 10 part).any (· ≤ 255)

/-- The number of 16 bit groups that the pieces stand for, if all of them are well formed. -/
def groups? (pieces : List (List Char)) : Option Nat :=
  match pieces.getLast? with
  | none => some 0
  | some last =>
    if pieces.all isGroup then some pieces.length
    else if pieces.dropLast.all isGroup && isDottedQuad last then some (pieces.length + 1)
    else none

/-- The text before the first two colons in a row, and the text after them. -/
def cutDoubleColon : List Char → Option (List Char × List Char)
  | ':' :: ':' :: rest => some ([], rest)
  | c :: rest => (cutDoubleColon rest).map fun cut => (c :: cut.1, cut.2)
  | [] => none

/-- Whether a text is an IPv6 address: eight groups, or fewer with one gap. -/
def isIpv6 (text : List Char) : Bool :=
  let pieces (part : List Char) : List (List Char) :=
    if part.isEmpty then [] else Text.split ':' part
  match cutDoubleColon text with
  | none => groups? (pieces text) == some 8
  | some (before, after) =>
    before.all (· ≠ '.') && match groups? (pieces before), groups? (pieces after) with
      | some first, some second => first + second ≤ 7
      | _, _ => false

end ClassDiagram.Host
