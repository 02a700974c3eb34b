import TagWeave.Entries
import TagWeave.Number.Layout

/-! JSON values and their compact text. Members of an object are kept by the order of their keys. -/
namespace TagWeave

/-- A number as JSON text tells it: an integer, or a double if it has a fraction or an exponent or
is too long. -/
inductive Json.Number where
  | integer (value : Int)
  | double (value : Double)
  deriving DecidableEq, Repr

inductive Json where
  | null
  | bool (value : Bool)
  | number (value : Json.Number)
  | text (value : Text)
  | array (items : List Json)
  | object (members : List (Text × Json))
  deriving Repr, Inhabited

namespace Json

def Number.toDouble : Number → Double
  | .integer value => .ofInt value
  | .double value => value

/-- An object of members given in any order; the last of each repeated key counts. -/
def ofMembers (members : List (Text × Json)) : Json := .object (Entries.sorted members)

def ofNat (n : Nat) : Json := .number (.integer n)

def ofString (text : String) : Json := .text text.toList

private def hexDigit (n : Nat) : Char := (Nat.digitChar n)

/-- A character inside a JSON string. Only quotes, backslashes and control characters are
escaped. -/
def escaped (c : Char) : Text :=
  if c = '"' then ['\\', '"']
  else if c = '\\' then ['\\', '\\']
  else if c = '\n' then ['\\', 'n']
  else if c = '\r' then ['\\', 'r']
  else if c = '\t' then ['\\', 't']
  else if c = '\x08' then ['\\', 'b']
  else if c = '\x0c' then ['\\', 'f']
  else if c.toNat < 0x20 then
    ['\\', 'u', '0', '0', hexDigit (c.toNat / 16), hexDigit (c.toNat % 16)]
  else [c]

def quoted (text : Text) : Text := '"' :: text.flatMap escaped ++ ['"']

/-- The text of a finite double. A whole number keeps a fraction part. -/
def doubleText : Double → Text
  | .nan => "null".toList
  | .signed negative rank =>
    if rank.val = topRank then "null".toList
    else Double.withSign negative
      (if rank.val = 0 then ['0', '.', '0'] else Double.jsonLayout.magnitude rank.val)

def Number.text : Number → Text
  | .integer value => Double.withSign (value < 0) (Text.ofNat value.natAbs)
  | .double value => doubleText value

mutual

def render : Json → Text
  | .null => "null".toList
  | .bool value => (if value then "true" else "false").toList
  | .number value => value.text
  | .text value => quoted value
  | .array items => '[' :: Text.joined [','] (renderItems items) ++ [']']
  | .object members => openBrace :: Text.joined [','] (renderMembers members) ++ [closeBrace]

def renderItems : List Json → List Text
  | [] => []
  | item :: rest => render item :: renderItems rest

def renderMembers : List (Text × Json) → List Text
  | [] => []
  | (key, value) :: rest => (quoted key ++ ':' :: render value) :: renderMembers rest

end

end Json

end TagWeave
