/-! Requests, and what the web makes of them. What a client of the web does on its own, such as
judging URLs, connecting and following redirections, is part of the web as it is met here.
-/

namespace ClassDiagram

/-- A request as a service receives it. -/
structure Request where
  method : String
  target : String
  contentType : String
  userAgent : String
  body : String
  deriving DecidableEq, Repr

/-- What a service answers. -/
structure Reply where
  status : Nat
  /-- The bytes that were read, or why they could not be read. -/
  body : Except String ByteArray

/-- What becomes of a request. -/
inductive Exchange where
  /-- There is no way to make any request. -/
  | unprepared (reason : String)
  /-- The request is not sent. -/
  | unsent (reason : String)
  /-- The request is sent, and after it those that it is redirected to. What comes back at last is a
  reply, or a reason why there is none. -/
  | sent (redirected : List Request) (reply : Except String Reply)

/-- The requests that services receive when one is made. -/
def Exchange.received (request : Request) : Exchange → List Request
  | unprepared _ | unsent _ => []
  | sent redirected _ => request :: redirected

/-- What becomes of each request. -/
abbrev Web := Request → Exchange

/-- No reply asks for a further request. -/
def Web.WithoutRedirections (web : Web) : Prop :=
  ∀ request redirected reply, web request = .sent redirected reply → redirected = []

/-- A web in which every request is answered alike. -/
def Web.answering (status : Nat) (body : ByteArray) : Web :=
  fun _ => .sent [] (.ok { status, body := .ok body })

end ClassDiagram
