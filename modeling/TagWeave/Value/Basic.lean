import TagWeave.Entries
import TagWeave.Number.Double
import TagWeave.Tag.Function

/-! The values that names stand for while a template is rendered. -/
namespace TagWeave

inductive Value where
  | text (value : Text)
  | number (value : Double)
  | bool (value : Bool)
  | list (items : List Value)
  | object (entries : List (Text × Value))
  | function (reference : FunctionRef)
  deriving Repr, Inhabited

namespace Value

def isFunction : Value → Bool
  | .function _ => true
  | _ => false

def asText? : Value → Option Text
  | .text value => some value
  | _ => none

def asObject? : Value → Option (Entries Value)
  | .object entries => some entries
  | _ => none

mutual

/-- Equality of values. Numbers compare as numbers, so nothing equals what is no number; objects
compare by their entries in any order, and functions by their references. -/
def same : Value → Value → Bool
  | .text a, .text b => a == b
  | .number a, .number b => a.same b
  | .bool a, .bool b => a == b
  | .list a, .list b => sameItems a b
  | .object a, .object b => a.length == b.length && sameEntries a b
  | .function a, .function b => a == b
  | _, _ => false

def sameItems : List Value → List Value → Bool
  | [], [] => true
  | a :: left, b :: right => same a b && sameItems left right
  | _, _ => false

def sameEntries : List (Text × Value) → List (Text × Value) → Bool
  | [], _ => true
  | (key, value) :: rest, others =>
    (match Entries.find? key others with
      | some other => same value other
      | none => false) && sameEntries rest others

end

end Value

end TagWeave
