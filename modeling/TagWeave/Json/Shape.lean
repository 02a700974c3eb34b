import TagWeave.Json.Draft

/-! The shapes of data that requests may bring. A draft is checked against a shape in the order of
its text, and the first fault decides: the text may stop being JSON, or a part may not fit. -/
namespace TagWeave

inductive Fault where
  | malformed
  /-- The text is JSON so far, but not of the shape asked for. -/
  | mismatch
  deriving DecidableEq, Repr

inductive Presence where
  | required
  /-- An object may leave the field out, an array of the fields may not. -/
  | optional
  /-- Object and array may both leave the field out. -/
  | defaulted
  deriving DecidableEq, Repr

structure FieldRule where
  name : String
  presence : Presence
  nullable : Bool
  deriving DecidableEq, Repr

inductive Shape where
  | any
  | text (accepts : Text → Bool)
  | flag
  | number
  | natural (limit : Nat)
  /-- One of some words, given as a text or as the only key of an object that holds `null`. -/
  | word (choices : List String)
  | list (item : Shape)
  /-- An object of named fields, or an array of the fields in this order. Other members of the
  object are ignored, but a field must not be given twice. -/
  | record (fields : List (FieldRule × Shape))

namespace Shape

def anyText : Shape := .text fun _ => true

def field? (fields : List (FieldRule × Shape)) (name : Text) : Option (FieldRule × Shape) :=
  fields.find? fun field => field.1.name.toList == name

private def fits (fit : Bool) : Except Fault Unit := if fit then .ok () else .error .mismatch

private def atEnd (closed : Bool) (complete : Bool) : Except Fault Unit :=
  if closed then fits complete else .error .malformed

mutual

/-- Check a draft that may be nested `room` deep. -/
def check (room : Nat) (shape : Shape) : Draft → Except Fault Unit
  | .broken => .error .malformed
  | .null => match shape with
    | .any => .ok ()
    | _ => .error .mismatch
  | .bool _ => match shape with
    | .any | .flag => .ok ()
    | _ => .error .mismatch
  | .number none => .error .malformed
  | .number (some value) => match shape, value with
    | .any, _ | .number, _ => .ok ()
    | .natural limit, .integer value => fits (0 ≤ value && value < limit)
    | _, _ => .error .mismatch
  | .text none => .error .malformed
  | .text (some value) => match shape with
    | .any => .ok ()
    | .text accepts => fits (accepts value)
    | .word choices => fits (choices.any fun choice => choice.toList == value)
    | _ => .error .mismatch
  | .array items closed => match shape, room with
    | .any, 0 | .list _, 0 | .record _, 0 => .error .malformed
    | .any, room + 1 => do
      checkItems room .any items
      atEnd closed true
    | .list item, room + 1 => do
      checkItems room item items
      atEnd closed true
    | .record fields, room + 1 => checkFields room fields items closed
    | _, _ => .error .mismatch
  | .object members closed => match shape, room with
    | .any, 0 | .record _, 0 => .error .malformed
    | .any, room + 1 => do
      checkAll room members
      atEnd closed true
    | .record fields, room + 1 => do
      let seen ← checkMembers room fields [] members
      atEnd closed (fields.all fun field =>
        field.1.presence != .required || seen.contains field.1.name.toList)
    | .word choices, _ => match members with
      | [(some key, .null)] => atEnd closed (choices.any fun choice => choice.toList == key)
      | _ => .error .mismatch
    | _, _ => .error .mismatch

def checkItems (room : Nat) (shape : Shape) : List Draft → Except Fault Unit
  | [] => .ok ()
  | item :: rest => do
    check room shape item
    checkItems room shape rest

/-- Check the items of an array that stand for the fields of a record. -/
def checkFields (room : Nat) :
    List (FieldRule × Shape) → List Draft → (closed : Bool) → Except Fault Unit
  | fields, [], closed => atEnd closed (fields.all fun field => field.1.presence == .defaulted)
  | [], _ :: _, _ => .error .malformed
  | (rule, shape) :: fields, item :: rest, closed => do
    match rule.nullable, item with
    | true, .null => pure ()
    | _, item => check room shape item
    checkFields room fields rest closed

/-- Check the members of an object that stand for the fields of a record, and answer the names of
those seen. -/
def checkMembers (room : Nat) (fields : List (FieldRule × Shape)) (seen : List Text) :
    List (Option Text × Draft) → Except Fault (List Text)
  | [] => .ok seen
  | (none, _) :: _ => .error .malformed
  | (some key, value) :: rest =>
    match field? fields key with
    | none => if value.isWhole then checkMembers room fields seen rest else .error .malformed
    | some (rule, shape) =>
      if seen.contains key then .error .mismatch
      else do
        match rule.nullable, value with
        | true, .null => pure ()
        | _, value => check room shape value
        checkMembers room fields (key :: seen) rest

def checkAll (room : Nat) : List (Option Text × Draft) → Except Fault Unit
  | [] => .ok ()
  | (none, _) :: _ => .error .malformed
  | (some _, value) :: rest => do
    check room .any value
    checkAll room rest

end

end Shape

namespace Draft

/-- The members of a record, whether it is given as an object or as an array of its fields. -/
def fieldValues (fields : List (FieldRule × Shape)) : Draft → List (Text × Draft)
  | .object members _ => members.filterMap fun member => member.1.map fun key => (key, member.2)
  | .array items _ => (fields.map fun field => field.1.name.toList).zip items
  | _ => []

/-- A field of a record; a field that is left out is `null`. -/
def field (fields : List (FieldRule × Shape)) (name : String) (draft : Draft) : Draft :=
  (Entries.find? name.toList (draft.fieldValues fields)).getD .null

/-- Whether a record gives a field, be it as `null`. -/
def gives (fields : List (FieldRule × Shape)) (name : String) (draft : Draft) : Bool :=
  (Entries.find? name.toList (draft.fieldValues fields)).isSome

def text? : Draft → Option Text
  | .text value => value
  | _ => none

def asText (draft : Draft) : Text := draft.text?.getD []

def natural? : Draft → Option Nat
  | .number (some (.integer value)) => some value.toNat
  | _ => none

def asNatural (draft : Draft) : Nat := draft.natural?.getD 0

def double? : Draft → Option Double
  | .number (some value) => some value.toDouble
  | _ => none

def flag? : Draft → Option Bool
  | .bool value => some value
  | _ => none

def word? : Draft → Option Text
  | .text value => value
  | .object [(key, _)] _ => key
  | _ => none

def items? : Draft → Option (List Draft)
  | .array items _ => some items
  | _ => none

/-- A draft that has the shape asked for is used; another one is refused for its first fault. -/
def readAs {α : Type} (shape : Shape) (use : Draft → α) (draft : Draft) : Except Fault α := do
  shape.check maxDepth draft
  return use draft

/-- Read a whole text of a shape. What follows the value counts only if the value has the shape. -/
def readText {α : Type} (shape : Shape) (use : Draft → α) (source : Text) : Except Fault α := do
  let (draft, clean) := ofText source
  let value ← draft.readAs shape use
  if clean then return value else throw .malformed

end Draft

end TagWeave
