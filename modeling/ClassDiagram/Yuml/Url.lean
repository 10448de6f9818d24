import ClassDiagram.Delivery.Web
import ClassDiagram.Host.Name

/-! The web of a program without a connection: which texts are URLs, and which of them a request
could be sent to. Only the words of its failures depend on that; what holds of uploads holds for any
web. Texts are judged and not rewritten: a URL that other programs would first bring into another
form is used as it is. URLs of the web have a host that names or numbers can be looked up for; files
and other services have rules of their own.
-/

namespace ClassDiagram.Yuml.Url

/-- What a text is good for as the target of a request. -/
inductive Use where
  /-- The text is no URL. -/
  | none
  /-- The text is a URL that no request can be sent to. -/
  | other
  | request
  deriving DecidableEq, Repr

/-- Whether a character is a control character or the space. -/
def isSpacing (c : Char) : Bool :=
  c.toNat ≤ 0x20

/-- Whether a character is skipped wherever it stands in a URL. -/
def isSkipped (c : Char) : Bool :=
  c = '\t' || c = '\n' || c = '\r'

/-- The text without spacing at its ends and skipped characters inside. -/
def trimmed (text : List Char) : List Char :=
  ((text.dropWhile isSpacing).reverse.dropWhile isSpacing).reverse.filter (!isSkipped ·)

/-- Whether a character may stand in the name of a scheme after the first. -/
def isSchemeChar (c : Char) : Bool :=
  c.isAlphanum || c = '+' || c = '-' || c = '.'

/-- The scheme, in small letters, and what follows its colon. -/
def scheme? (url : List Char) : Option (String × List Char) :=
  let name := url.takeWhile isSchemeChar
  match name.head?, url.drop name.length with
  | some first, ':' :: rest =>
    if first.isAlpha then some (String.ofList (name.map Char.toLower), rest) else none
  | _, _ => none

/-- Whether a character separates the parts of a path on the web. -/
def isSlash (c : Char) : Bool :=
  c = '/' || c = '\\'

/-- Whether a character follows the path. -/
def endsPath (c : Char) : Bool :=
  c = '?' || c = '#'

/-- What is between the slashes before a host and the path. -/
structure Authority where
  /-- What tells the service who asks, before the last `@`. -/
  user : Option (List Char)
  host : List Char
  /-- What follows the colon after the host. -/
  number : Option (List Char)

namespace Authority

/-- Cuts a text at the first colon outside brackets. -/
def cutNumber (inside : Bool) : List Char → List Char × Option (List Char)
  | [] => ([], none)
  | c :: rest =>
    if c = ':' && !inside then ([], some rest)
    else
      let (host, number) := cutNumber (c = '[' || (inside && c ≠ ']')) rest
      (c :: host, number)

/-- The authority that is written as the given text. -/
def ofText (text : List Char) : Authority :=
  let service := (text.reverse.takeWhile (· ≠ '@')).reverse
  let (host, number) := cutNumber false service
  {
    user :=
      if service.length < text.length then
        some (text.take (text.length - service.length - 1))
      else none,
    host,
    number
  }

/-- Whether what follows the host is a number that may follow it; it may be empty, and a backslash
after it belongs to the path. -/
def hasSocketNumber (authority : Authority) : Bool :=
  authority.number.all fun text =>
    let digits := text.takeWhile (· ≠ '\\')
    digits.all Char.isDigit && (Host.number? 10 digits).any (· < UInt16.size)

/-- Whether nothing is named; a colon between an empty name and an empty secret names nobody. -/
def isEmpty (authority : Authority) : Bool :=
  authority.user.all (· = [':']) && authority.host.isEmpty && authority.number.isNone

end Authority

/-- The most bytes of a URL that a request can be sent to. -/
def longestTarget : Nat := 65534

/-- The use of a URL of the web, given what follows the colon. Any number of slashes may stand
before the host. -/
def webUse (url : String) (isRequest : Bool) (rest : List Char) : Use :=
  let text := (rest.dropWhile isSlash).takeWhile fun c => !isSlash c && !endsPath c
  let authority := Authority.ofText text
  if !Host.isHost authority.host || !authority.hasSocketNumber then .none
  else if isRequest && (Host.plainName authority.host).all Host.isSendable
      && url.utf8ByteSize ≤ longestTarget then .request
  else .other

/-- Whether a text begins like a path on a named drive. -/
def isDrive : List Char → Bool
  | [letter, colon] => letter.isAlpha && (colon = ':' || colon = '|')
  | _ => false

/-- The use of a URL of a file, given what follows the colon. Two slashes stand before a host, which
may be left out. -/
def fileUse (rest : List Char) : Use :=
  if (rest.take 2).length = 2 && (rest.take 2).all isSlash then
    let host := (rest.drop 2).takeWhile fun c => !isSlash c && !endsPath c
    if host.isEmpty || isDrive host || Host.isHost host then .other else .none
  else .other

/-- The use of any other URL, given what follows the colon. Two slashes stand before a host; a URL
without a host is one of a service as well. -/
def otherUse (rest : List Char) : Use :=
  match rest with
  | '/' :: '/' :: rest =>
    let authority := Authority.ofText (rest.takeWhile fun c => c ≠ '/' && !endsPath c)
    if authority.isEmpty
        || !authority.host.isEmpty && Host.isOtherHost authority.host
          && authority.hasSocketNumber then .other
    else .none
  | _ => .other

/-- What a text is good for as the target of a request. -/
def use (url : String) : Use :=
  match scheme? (trimmed url.toList) with
  | none => .none
  | some ("http", rest) | some ("https", rest) => webUse url true rest
  | some ("ftp", rest) | some ("ws", rest) | some ("wss", rest) => webUse url false rest
  | some ("file", rest) => fileUse rest
  | some (_, rest) => otherUse rest

/-- The web without a connection. What becomes of a request tells only what its target is good for.
-/
def offline : Web := fun request =>
  match use request.target with
  | .none => .unsent "builder error"
  | .other => .unsent ("builder error for url (" ++ request.target ++ ")")
  | .request => .unsent ("error sending request for url (" ++ request.target ++ ")")

end ClassDiagram.Yuml.Url
