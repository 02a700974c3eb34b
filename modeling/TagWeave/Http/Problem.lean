import TagWeave.Http.MediaType
import TagWeave.Http.Message
import TagWeave.Json.Shape
import TagWeave.Service.Failure

/-! Why a request is not answered as it asks to be. -/
namespace TagWeave.Http

inductive Problem where
  | failed (failure : Failure)
  /-- The id in the path spells no text. -/
  | unreadablePath
  /-- The body is not said to be JSON. -/
  | mediaType
  /-- The body turned out too long. -/
  | tooLong
  | body (fault : Fault)
  deriving DecidableEq, Repr

namespace Problem

def failureResponse (mode : Option Text) (failure : Failure) : Response :=
  .of failure.status (.json (failure.toJson mode))

private def textResponse (status : Nat) (text : String) : Response :=
  .of status (.text text.toList)

/-- The response to a request that cannot be answered. No request makes the service itself fail, so
the mode of running does not matter here. What the reader of JSON or of the path adds to these texts
after a colon is left out. -/
def response : Problem → Response
  | .failed failure => failureResponse none failure
  | .unreadablePath => textResponse 400 "Invalid URL"
  | .mediaType => textResponse 415 "Expected request with \x60Content-Type: application/json\x60"
  | .tooLong => textResponse 413 "Failed to buffer the request body: length limit exceeded"
  | .body .malformed => textResponse 400 "Failed to parse the request body as JSON"
  | .body .mismatch =>
    textResponse 422 "Failed to deserialize the JSON body into the target type"

/-- The response to a request that says beforehand that it is too long. -/
def announcedTooLong : Response := textResponse 413 "length limit exceeded"

end Problem

/-- The greatest body that is read whatever the settings allow. -/
def readLimit : Nat := 2 * 1024 * 1024

def Request.statedLength? (request : Request) : Option Nat := do
  let stated ← request.headers.text? "content-length"
  let digits := match stated with
    | '+' :: digits => digits
    | digits => digits
  if Text.isDigits digits then Text.natBelow? (Nat.pow 2 64) digits else none

def Request.statesTooLong (limit : Nat) (request : Request) : Bool :=
  request.statedLength?.any fun length => limit < length

/-- How much of a body is read: no more than the request states. -/
def Request.roomForBody (limit : Nat) (request : Request) : Nat :=
  min readLimit ((request.statedLength?.map (min limit)).getD limit)

def Request.read {α : Type} (limit : Nat) (shape : Shape) (use : Draft → α) (request : Request) :
    Except Problem α :=
  if !(request.headers.text? "content-type").any MediaType.isJson then .error .mediaType
  else if request.roomForBody limit < Text.utf8Size request.body then .error .tooLong
  else match Draft.readText shape use request.body with
    | .ok value => .ok value
    | .error fault => .error (.body fault)

end TagWeave.Http
