import TagWeave.Http.Answer
import TagWeave.Http.Origin

/-! One request from the outside in: the pages that may read the answer, the stated length, the
route, the key, the method, and at last the endpoint. -/
namespace TagWeave.Http

def start (settings : Settings) (now : Moment) : Except StartFault Service :=
  match startFault? settings with
  | some fault => .error fault
  | none => .ok (.start settings now)

/-- Why a request does not have the key, if there is one. -/
def keyFailure? (settings : Settings) (request : Request) : Option Failure :=
  match settings.apiKey with
  | none => none
  | some key =>
    match request.headers.text? "x-api-key" with
    | none => some (.unauthorized "Missing X-API-Key header".toList)
    | some given => if given = key then none else some (.unauthorized "Invalid API key".toList)

def guardFailure? (settings : Settings) (request : Request) (route : Route) : Option Failure :=
  if route.isGuarded then keyFailure? settings request else none

def atRoute (service : Service) (occasion : Occasion) (request : Request) (route : Route) :
    Response × Service :=
  match guardFailure? service.settings request route with
  | some failure => ((Problem.failed failure).response, service)
  | none =>
    match route.endpoint? request.method with
    | none => (.of 405 .empty, service)
    | some endpoint =>
      let (result, service) := perform service occasion request endpoint
      (reply result, service)

/-- Answer a request apart from the headers that every answer has. -/
def answer (service : Service) (occasion : Occasion) (request : Request) : Response × Service :=
  if request.method = .options then (permission, service)
  else if request.statesTooLong service.settings.bodyLimit then (Problem.announcedTooLong, service)
  else match Route.ofPath? request.path with
    | none =>
      ((Problem.failed (.notFound ("No route for ".toList ++ request.path))).response, service)
    | some route => atRoute service occasion request route

/-- The methods to name in an answer: those of the route, if it does not allow the one used. -/
def allowedInstead? (request : Request) : Option Text :=
  match Route.ofPath? request.path with
  | none => none
  | some route => if (route.endpoint? request.method).isNone then some route.allowed else none

/-- Handle a request. A request for the head of an answer gets no body. -/
def handle (service : Service) (occasion : Occasion) (request : Request) : Response × Service :=
  let (response, service) := answer service occasion request
  let response := (response.withHeader "allow" (allowedInstead? request)).withHeader
    "access-control-allow-origin" (openTo? service.settings request)
  (if request.method = .head then response.bare else response, service)

end TagWeave.Http
