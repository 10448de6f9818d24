import ClassDiagram.Delivery.World
import ClassDiagram.Text.Blank
import ClassDiagram.Text.Form
import ClassDiagram.Text.Utf8
import ClassDiagram.Yuml.Status

/-! The yUML service. It takes the text of a diagram as a form and answers with the name
of the image file, which is found at the same address.
-/

namespace ClassDiagram.Yuml

/-- A service at an address; slashes at the end of the address do not matter. -/
structure Client where
  baseUrl : String
  deriving DecidableEq, Repr

namespace Client

/-- The text without the slashes at its end. -/
def dropSlashes (text : List Char) : List Char :=
  (text.reverse.dropWhile (· == '/')).reverse

def ofUrl (url : String) : Client where
  baseUrl := String.ofList (dropSlashes url.toList)

def publicUrl : String := "https://yuml.me"

/-- The URL that diagrams are sent to, and the beginning of the URLs of their images. -/
def endpoint (client : Client) : String :=
  client.baseUrl ++ "/diagram/plain/class/"

/-- The request that sends a diagram. -/
def request (client : Client) (body : String) : Request where
  method := "POST"
  target := client.endpoint
  contentType := "application/x-www-form-urlencoded"
  userAgent := "tsuml/0.1.0"
  body := Text.formField "dsl_text" body

/-- A failure of the service. -/
def failed (reason : String) : Failure :=
  .sinkFailure "yuml" reason

/-- The name of the vector image for the image that the service names. -/
def vectorName (name : List Char) : List Char :=
  Text.replaceAll ".png".toList ".svg".toList name

/-- The URL of the image that a successful answer names, if it names one. -/
def imageUrl (client : Client) (body : ByteArray) : Except Failure String :=
  let name := Text.trim (Text.decodeLossy body)
  if name.isEmpty then .error (failed "empty response")
  else .ok (client.endpoint ++ String.ofList (vectorName name))

/-- The status with which a service rejects a request, if it does so. -/
def rejection? : Exchange → Option Nat
  | .sent _ (.ok reply) => if isSuccess reply.status then none else some reply.status
  | _ => none

/-- The URL of the image that the service names, or why there is none. -/
def published (client : Client) (exchange : Exchange) : Except Failure String :=
  match exchange with
  | .unprepared reason => .error (failed reason)
  | .unsent reason | .sent _ (.error reason) => .error (failed ("upload failed: " ++ reason))
  | .sent _ (.ok reply) =>
    if isSuccess reply.status then
      match reply.body with
      | .ok answer => client.imageUrl answer
      | .error reason => .error (failed reason)
    else .error (failed ("service answered " ++ statusText reply.status))

/-- Sends a diagram; the result is the URL of its image. -/
def upload (client : Client) (body : String) : Action String := do
  Action.tell
    {
      level := .debug
      target := .upload
      message := "Uploading yUML diagram"
      fields :=
        [⟨"endpoint", .plain client.endpoint⟩, ⟨"dsl_len", .number body.utf8ByteSize⟩]
    }
  let exchange ← Action.send (client.request body)
  if let some status := rejection? exchange then
    Action.tell
      {
        level := .warn
        target := .upload
        message := "yUML service rejected the diagram"
        fields := [⟨"status", .plain (statusText status)⟩]
      }
  .ofReport { result := client.published exchange }

end Client

end ClassDiagram.Yuml
