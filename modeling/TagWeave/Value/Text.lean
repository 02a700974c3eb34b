import TagWeave.Json.Basic
import TagWeave.Value.Basic

/-! How values go into JSON and into text. JSON has no functions: an object leaves them out, and
elsewhere they are `null`. Text shows an object as its JSON. -/
namespace TagWeave.Value

/-- A number as JSON: small whole numbers as integers, the rest as doubles. JSON has neither
infinity nor what is no number. -/
def numberToJson (n : Double) : Json :=
  if n.isIntegral && n.whole < Nat.pow 2 53 then
    .number (.integer (if n.isNegative then -n.whole else n.whole))
  else if n.isFinite then .number (.double n)
  else .null

mutual

def toJson : Value → Json
  | .text value => .text value
  | .number value => numberToJson value
  | .bool value => .bool value
  | .list items => .array (itemsToJson items)
  | .object entries => Json.ofMembers (entriesToJson entries)
  | .function _ => .null

def itemsToJson : List Value → List Json
  | [] => []
  | item :: rest => toJson item :: itemsToJson rest

def entriesToJson : List (Text × Value) → List (Text × Json)
  | [] => []
  | (_, .function _) :: rest => entriesToJson rest
  | (key, value) :: rest => (key, toJson value) :: entriesToJson rest

end

mutual

/-- The value that JSON stands for; `null` stands for none. In an array it becomes the empty text,
so that positions stay, and an object leaves it out. -/
def ofJson? : Json → Option Value
  | .null => none
  | .bool value => some (.bool value)
  | .number value => some (.number value.toDouble)
  | .text value => some (.text value)
  | .array items => some (.list (itemsOfJson items))
  | .object members => some (.object (entriesOfJson members))

def itemsOfJson : List Json → List Value
  | [] => []
  | item :: rest => (ofJson? item).getD (.text []) :: itemsOfJson rest

def entriesOfJson : List (Text × Json) → List (Text × Value)
  | [] => []
  | (key, member) :: rest =>
    match ofJson? member with
    | some value => (key, value) :: entriesOfJson rest
    | none => entriesOfJson rest

end

mutual

def toText : Value → Text
  | .text value => value
  | .number value => value.text
  | .bool value => (if value then "true" else "false").toList
  | .list items => Text.joined [','] (itemTexts items)
  | .object entries => (toJson (.object entries)).render
  | .function _ => []

def itemTexts : List Value → List Text
  | [] => []
  | item :: rest => toText item :: itemTexts rest

end

def join (separator : Text) (items : List Value) : Text := Text.joined separator (itemTexts items)

theorem itemsToJson_eq_map (items : List Value) : itemsToJson items = items.map toJson := by
  induction items with
  | nil => rfl
  | cons item rest ih => simp [itemsToJson, ih]

theorem itemTexts_eq_map (items : List Value) : itemTexts items = items.map toText := by
  induction items with
  | nil => rfl
  | cons item rest ih => simp [itemTexts, ih]

end TagWeave.Value
