import ClassDiagram.Host.Address
import ClassDiagram.Host.Label
import ClassDiagram.Text.Percent
import ClassDiagram.Text.Utf8

/-! Hosts as URLs write them: names, addresses in four parts, and addresses in eight groups
inside brackets.
-/

namespace ClassDiagram.Host

/-- A name as its labels see it: percent signs stand for bytes, and capital letters of ASCII for
small ones. -/
def plainName (written : List Char) : List Char :=
  (Text.decodeFrom none (Text.percentDecode written)).map Char.toLower

/-- Whether labels can stand in one name. -/
def isDomain (labels : List (List Char)) : Bool :=
  labels.all isLabel
    && (!labels.any (·.any isFromRight) || labels.all staysTogether)

/-- The labels of a name but an empty one at its end. -/
def parts (pieces : List (List Char)) : List (List Char) :=
  if pieces.getLast? = some [] then pieces.dropLast else pieces

/-- Whether a text is the name of a host or its address in four parts. -/
def isName (written : List Char) : Bool :=
  let name := plainName written
  let pieces := Text.split '.' name
  !name.isEmpty && (pieces.mapM decodeLabel?).any isDomain
    && (!endsInNumber (parts pieces) || isIpv4 (parts pieces))

/-- The text between brackets, if it stands in brackets. -/
def inBrackets? : List Char → Option (List Char)
  | '[' :: rest => if rest.getLast? = some ']' then some rest.dropLast else some []
  | _ => none

/-- Whether a text is a host of the web. -/
def isHost (written : List Char) : Bool :=
  match inBrackets? written with
  | some address => isIpv6 address
  | none => isName written

/-- Whether a character ends or divides the text that other services may use as a host. -/
def isDelimiter (c : Char) : Bool :=
  "\x00\t\n\r #/:<>?@[\\]^|".toList.contains c

/-- Whether a text is a host of a service that is not of the web: any text without delimiters. -/
def isOtherHost (written : List Char) : Bool :=
  match inBrackets? written with
  | some address => isIpv6 address
  | none => !written.any isDelimiter

/-- Whether a character may be sent as part of the name of a host. -/
def isSendable (c : Char) : Bool :=
  !"\"`\x7b\x7d".toList.contains c

end ClassDiagram.Host
