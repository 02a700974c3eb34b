import TagWeave.Json.Basic

/-! Requests and responses. The names of headers are compared without regard to case. -/
namespace TagWeave.Http

inductive Method where
  | get
  | head
  | post
  | put
  | delete
  | options
  | other (name : Text)
  deriving DecidableEq, Repr

namespace Method

/-- The methods that some route may allow, in the order in which they are listed. -/
def listed : List Method := [.get, .head, .post, .put, .delete]

def name : Method → Text
  | .get => "GET".toList
  | .head => "HEAD".toList
  | .post => "POST".toList
  | .put => "PUT".toList
  | .delete => "DELETE".toList
  | .options => "OPTIONS".toList
  | .other name => name

def ofName (name : Text) : Method :=
  ((Method.options :: listed).find? fun method => method.name == name).getD (.other name)

end Method

abbrev Headers := List (Text × Text)

/-- The first header of a name given in lower case. -/
def Headers.first? (name : String) (headers : Headers) : Option Text :=
  (headers.find? fun header => Text.lowerAscii header.1 == name.toList).map Prod.snd

def isPlain (c : Char) : Bool := c == '\t' || (' ' ≤ c && c ≤ '~')

/-- The first header of a name, if it can be read as text. -/
def Headers.text? (name : String) (headers : Headers) : Option Text :=
  (headers.first? name).filter fun value => value.all isPlain

structure Request where
  method : Method
  /-- The path with its escapes, and the query after it. A host may stand before it. -/
  target : Text
  headers : Headers
  body : Text
  deriving DecidableEq, Repr

def afterScheme? (target : Text) : Option Text :=
  match Text.cut "://".toList target with
  | some (scheme, rest) =>
    if scheme.all fun c => c.isAlphanum || "+-.".toList.contains c then some rest else none
  | none => none

/-- The path alone, its escapes kept. A scheme and a host may stand before the path, which is a
slash then if it is empty; a target that is a host alone has no path. -/
def Request.path (request : Request) : Text :=
  let target := request.target.takeWhile fun c => c != '?' && c != '#'
  if target.head? = some '/' ∨ target = ['*'] then target
  else match afterScheme? target with
    | none => []
    | some rest =>
      match rest.dropWhile (· != '/') with
      | [] => ['/']
      | path => path

inductive Body where
  | empty
  | json (value : Json)
  | text (value : Text)
  | samples (values : List (Text × Nat))
  deriving Repr

def Body.mediaType? : Body → Option Text
  | .empty => none
  | .json _ => some "application/json".toList
  | .text _ => some "text/plain; charset=utf-8".toList
  | .samples _ => some "text/plain; version=0.0.4; charset=utf-8".toList

/-- A response. Its headers `vary` and `content-length` are left out. -/
structure Response where
  status : Nat
  headers : Headers
  body : Body
  deriving Repr

namespace Response

def of (status : Nat) (body : Body) : Response :=
  ⟨status, (body.mediaType?.map fun media => ("content-type".toList, media)).toList, body⟩

/-- The response with one more header, if it has a value. -/
def withHeader (name : String) (value : Option Text) (response : Response) : Response :=
  { response with
    headers := response.headers ++ (value.map fun value => (name.toList, value)).toList }

def bare (response : Response) : Response := { response with body := .empty }

end Response

end TagWeave.Http
