import TagWeave.Text.Basic

/-! Media types as requests state them: a type, a subtype that may end in a suffix, and
parameters. -/
namespace TagWeave.Http.MediaType

/-- The characters of types, of subtypes and of the names of parameters. -/
def isToken (c : Char) : Bool := c.isAlphanum || "!#$%&'*+-.^_\x60|~".toList.contains c

/-- The characters between quotes. -/
def isQuotable (c : Char) : Bool := ' ' ≤ c && c != '\x7f'

/-- How far the parameters have been read. -/
inductive Place where
  | gap
  | name
  /-- After the sign between name and value. -/
  | value
  | token
  /-- After the first quote. -/
  | opened
  | quoted
  /-- After the last quote. -/
  | closed
  deriving DecidableEq, Repr

def Place.next (place : Place) (c : Char) : Option Place :=
  match place with
  | .gap => if c = ' ' then some .gap else if isToken c then some .name else none
  | .name => if c = '=' then some .value else if isToken c then some .name else none
  | .value => if c = '"' then some .opened else if isToken c then some .token else none
  | .token => if c = ';' then some .gap else if isToken c then some .token else none
  | .opened => if isQuotable c then some .quoted else none
  | .quoted => if c = '"' then some .closed else if isQuotable c then some .quoted else none
  | .closed => if c = ';' then some .gap else if c = ' ' then some .closed else none

def Place.isEnd : Place → Bool
  | .gap | .value | .token | .closed => true
  | .name | .opened | .quoted => false

def areParameters (text : Text) : Bool :=
  match text.foldlM Place.next .gap with
  | some place => place.isEnd
  | none => false

/-- Whether a subtype is JSON or has the suffix of JSON. A plus sign at the beginning opens no
suffix. -/
def isJsonSubtype (subtype : Text) : Bool :=
  match Text.cutAtLast '+' subtype with
  | some (first :: rest, suffix) => first :: rest == "json".toList || suffix == "json".toList
  | _ => subtype == "json".toList

def isJson (stated : Text) : Bool :=
  match Text.cutAt '/' (Text.lowerAscii stated) with
  | none => false
  | some (type, rest) =>
    let subtype := rest.takeWhile (· != ';')
    type == "application".toList && subtype.all isToken && isJsonSubtype subtype &&
      match rest.dropWhile (· != ';') with
      | [] => true
      | _ :: parameters => areParameters parameters

end TagWeave.Http.MediaType
