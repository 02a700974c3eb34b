import TagWeave.Http.Message
import TagWeave.Settings.Basic

/-! Which pages may read answers: those of the configured origins, or all if none is usable. -/
namespace TagWeave.Http

/-- Whether an origin can be written in a header at all. -/
def isUsableOrigin (origin : Text) : Bool :=
  origin.all fun c => c == '\t' || (' ' ≤ c && c != '\x7f')

def usableOrigins (settings : Settings) : List Text := settings.origins.filter isUsableOrigin

inductive StartFault where
  /-- The sign for any origin stands among the origins that count. -/
  | wildcardOrigin
  deriving DecidableEq, Repr

def startFault? (settings : Settings) : Option StartFault :=
  if (usableOrigins settings).contains ['*'] then some .wildcardOrigin else none

def openTo? (settings : Settings) (request : Request) : Option Text :=
  match usableOrigins settings with
  | [] => some ['*']
  | origins => (request.headers.first? "origin").filter origins.contains

/-- The answer to a question for the methods and headers that are allowed: all are. -/
def permission : Response :=
  (Response.of 200 .empty).withHeader "access-control-allow-methods" (some ['*'])
    |>.withHeader "access-control-allow-headers" (some ['*'])

end TagWeave.Http
