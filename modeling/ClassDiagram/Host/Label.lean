import ClassDiagram.Host.Character
import ClassDiagram.Text.CombiningClass
import ClassDiagram.Text.Composed
import ClassDiagram.Text.Direction
import ClassDiagram.Text.Joining
import ClassDiagram.Text.Punycode

/-! Labels, the pieces of host names between points. A label in another script may be
written in ASCII, after letters that mark it.
-/

namespace ClassDiagram.Host

/-- Stands before a label that is written in ASCII. -/
def encodedMark : List Char := "xn--".toList

/-- The most characters that are read as an encoded label. -/
def longestEncoded : Nat := 2000

/-- The most characters of a label that is not all ASCII. -/
def longestUnencoded : Nat := 1000

def isAscii (c : Char) : Bool :=
  c.toNat < 0x80

/-- The label that a written label stands for. An encoded one has a character that is not in ASCII,
so it does not end in a hyphen. -/
def decodeLabel? (written : List Char) : Option (List Char) :=
  if encodedMark.isPrefixOf written then
    let encoded := written.drop encodedMark.length
    if written.getLast? = some '-' || longestEncoded < encoded.length then none
    else Text.Punycode.decode? encoded
  else some written

/-- Whether letters connect around a place: the letter before it to the next one, and the letter
after it to the previous one. -/
def connects (before after : List Char) : Bool :=
  (before.dropWhile Text.isJoiningTransparent).head?.any Text.joinsNext
    && (after.dropWhile Text.isJoiningTransparent).head?.any Text.joinsPrevious

/-- Whether a joiner or nonjoiner changes how its neighbours look. What stands before it is given
in reverse. -/
def isVisibleJoiner (c : Char) (before after : List Char) : Bool :=
  match before with
  | [] => false
  | previous :: _ =>
    Text.combiningClass previous = Text.viramaClass || (c = nonJoiner && connects before after)

/-- Whether all joiners and nonjoiners of a text change how their neighbours look. What stands
before the text is given in reverse. -/
def hasVisibleJoiners (before : List Char) : List Char → Bool
  | [] => true
  | c :: rest =>
    (!(c = nonJoiner || c = joiner) || isVisibleJoiner c before rest)
      && hasVisibleJoiners (c :: before) rest

/-- Whether a text may stand between the points of a name. -/
def isLabel (label : List Char) : Bool :=
  label.all isCharacter
    && (label.all isAscii
      || label.length ≤ longestUnencoded && Text.composed label = label
        && !label.head?.any Text.isMark && hasVisibleJoiners [] label)

/-- Whether a character gives a name the direction of its script: letters and digits of scripts
that are written from right to left. -/
def isFromRight (c : Char) : Bool :=
  match Text.direction c with
  | .right | .arabicNumber => true
  | .left | .europeanNumber | .mark | .neutral => false

/-- Whether the characters of a label stay together in a name that has letters from right to left.
The label begins with a letter and ends with a letter or digit and their marks; a label from left
to right has no letters or Arabic digits from right to left, one from right to left no letters from
left to right, and digits of one kind only. -/
def staysTogether (label : List Char) : Bool :=
  let directions := (label.map Text.direction).reverse.dropWhile (· = .mark)
  let first := label.head?.map Text.direction
  match first, directions.head? with
  | none, _ => true
  | some .left, some last =>
    (last = .left || last = .europeanNumber)
      && directions.all fun d => d ≠ .right && d ≠ .arabicNumber
  | some .right, some last =>
    (last ≠ .neutral && last ≠ .left) && directions.all (· ≠ .left)
      && !(directions.contains .europeanNumber && directions.contains .arabicNumber)
  | some _, _ => false

end ClassDiagram.Host
