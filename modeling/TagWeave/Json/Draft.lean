import TagWeave.Json.Lexeme

/-! Reading JSON text never fails outright: it gives a draft, the value as far as the text could be
read. A later reader of the draft meets its parts in the order of the text, so it meets a fault of
the text exactly where a reader of the text itself would. -/
namespace TagWeave

/-- What a JSON text says as far as it can be read. -/
inductive Draft where
  /-- Here the text is no JSON. -/
  | broken
  | null
  | bool (value : Bool)
  /-- A number; nothing if it is too great for a double. -/
  | number (value : Option Json.Number)
  /-- A text; nothing if it spells half of a character. -/
  | text (value : Option Text)
  /-- An array, and whether its end could be read. -/
  | array (items : List Draft) (closed : Bool)
  | object (members : List (Option Text × Draft)) (closed : Bool)

open Lexeme

namespace Draft

mutual

/-- The value that a text begins with, and what follows it unless the text is no JSON there. -/
def readValue : (fuel : Nat) → Text → Draft × Option Text
  | 0, _ => (.broken, none)
  | fuel + 1, source =>
    match skipSpace source with
    | 'n' :: 'u' :: 'l' :: 'l' :: rest => (.null, some rest)
    | 't' :: 'r' :: 'u' :: 'e' :: rest => (.bool true, some rest)
    | 'f' :: 'a' :: 'l' :: 's' :: 'e' :: rest => (.bool false, some rest)
    | '"' :: rest =>
      match readCodes rest with
      | some (codes, after) => (.text (assemble? codes), some after)
      | none => (.broken, none)
    | '[' :: rest =>
      match skipSpace rest with
      | ']' :: after => (.array [] true, some after)
      | inside =>
        let (items, after) := readItems fuel inside
        (.array items after.isSome, after)
    | '\x7b' :: rest =>
      match skipSpace rest with
      | '\x7d' :: after => (.object [] true, some after)
      | inside =>
        let (members, after) := readMembers fuel inside
        (.object members after.isSome, after)
    | other =>
      match readNumeral other with
      | some (numeral, after) => (.number numeral.value, some after)
      | none => (.broken, none)

def readItems : (fuel : Nat) → Text → List Draft × Option Text
  | 0, _ => ([], none)
  | fuel + 1, source =>
    let (item, after) := readValue fuel source
    match after.map skipSpace with
    | some (',' :: rest) =>
      let (items, after) := readItems fuel rest
      (item :: items, after)
    | some (']' :: rest) => ([item], some rest)
    | _ => ([item], none)

def readMembers : (fuel : Nat) → Text → List (Option Text × Draft) × Option Text
  | 0, _ => ([], none)
  | fuel + 1, source =>
    match skipSpace source with
    | '"' :: rest =>
      match readCodes rest with
      | none => ([], none)
      | some (codes, after) =>
        let key := assemble? codes
        match skipSpace after with
        | ':' :: rest =>
          let (value, after) := readValue fuel rest
          match after.map skipSpace with
          | some (',' :: rest) =>
            let (members, after) := readMembers fuel rest
            ((key, value) :: members, after)
          | some ('\x7d' :: rest) => ([(key, value)], some rest)
          | _ => ([(key, value)], none)
        | _ => ([(key, .broken)], none)
    | _ => ([], none)

end

/-- The draft of a text, and whether nothing but white space follows the value. -/
def ofText (source : Text) : Draft × Bool :=
  let (draft, after) := readValue (2 * source.length + 2) source
  (draft, (after.map skipSpace) == some [])

mutual

def isWhole : Draft → Bool
  | .broken => false
  | .null | .bool _ | .number _ | .text _ => true
  | .array items closed => closed && areWhole items
  | .object members closed => closed && membersWhole members

def areWhole : List Draft → Bool
  | [] => true
  | item :: rest => item.isWhole && areWhole rest

def membersWhole : List (Option Text × Draft) → Bool
  | [] => true
  | (_, value) :: rest => value.isWhole && membersWhole rest

end

def maxDepth : Nat := 127

mutual

/-- The value of a draft, if its text is JSON, every part of it has a value and it is nested no
deeper than `room`. -/
def toJson? (room : Nat) : Draft → Option Json
  | .broken => none
  | .null => some .null
  | .bool value => some (.bool value)
  | .number value => value.map .number
  | .text value => value.map .text
  | .array items closed =>
    match room, closed, itemsToJson? (room - 1) items with
    | _ + 1, true, some values => some (.array values)
    | _, _, _ => none
  | .object members closed =>
    match room, closed, membersToJson? (room - 1) members with
    | _ + 1, true, some values => some (Json.ofMembers values)
    | _, _, _ => none

def itemsToJson? (room : Nat) : List Draft → Option (List Json)
  | [] => some []
  | item :: rest =>
    match toJson? room item, itemsToJson? room rest with
    | some value, some values => some (value :: values)
    | _, _ => none

def membersToJson? (room : Nat) : List (Option Text × Draft) → Option (List (Text × Json))
  | [] => some []
  | (key, member) :: rest =>
    match key, toJson? room member, membersToJson? room rest with
    | some key, some value, some values => some ((key, value) :: values)
    | _, _, _ => none

end

end Draft

end TagWeave
