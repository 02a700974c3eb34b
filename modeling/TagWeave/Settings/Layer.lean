import TagWeave.Json.Basic
import TagWeave.Number.Arithmetic
import TagWeave.Number.Operand
import TagWeave.Settings.Path
import TagWeave.Text.Case

/-! Layers of settings. A later layer is written over the earlier ones name by name, so what it does
not name stays. Names are kept in lower case. -/
namespace TagWeave

/-- A setting as a layer gives it, before it is known what it is needed for. -/
inductive Setting where
  | null
  | flag (value : Bool)
  | integer (value : Int)
  | number (value : Double)
  | text (value : Text)
  | list (items : List Setting)
  | table (members : List (Text × Setting))
  deriving Repr

/-- What one source of settings gives: settings by their dotted names. -/
abbrev Layer := List (Text × Setting)

namespace Setting

def members : Setting → Entries Setting
  | .table members => members
  | _ => []

def items : Setting → List Setting
  | .list items => items
  | _ => []

mutual

/-- What stands where a setting is written over another one. A table is written member by member;
one without members changes nothing. -/
def onto : (setting : Setting) → (base : Option Setting) → Setting
  | .table [], base => base.getD (.table [])
  | .table added, base => .table (addAll added ((base.map members).getD []))
  | setting, _ => setting

def addAll : List (Text × Setting) → Entries Setting → Entries Setting
  | [], entries => entries
  | (name, setting) :: rest, entries =>
    let key := Text.lower name
    addAll rest (Entries.write key (onto setting (Entries.find? key entries)) entries)

end

/-- The place that an index means in a list. Nothing if that is before the beginning. -/
def place? (length : Nat) (index : Int) : Option Nat :=
  if 0 ≤ index then some index.toNat
  else if index.natAbs ≤ length then some (length - index.natAbs)
  else none

/-- Put an item at a place of a list. Up to there the list is filled with `null`. -/
def putItem (place : Nat) (item : Setting) (items : List Setting) : List Setting :=
  (items ++ List.replicate (place + 1 - items.length) Setting.null).set place item

/-- Write a setting at a path. What stands on the way and is no table or list, as the path needs it,
gives place to one; the item that a path ends at is replaced as a whole. Nothing if an index means a
place before the beginning. -/
def writeAt (setting : Setting) : (path : List Step) → (base : Option Setting) → Option Setting
  | [], base => some (onto setting base)
  | .member name :: path, base => do
    let key := Text.lower name
    let entries := (base.map members).getD []
    let inner ← writeAt setting path (Entries.find? key entries)
    return .table (Entries.write key inner entries)
  | .item index :: path, base => do
    let items := (base.map items).getD []
    let place ← place? items.length index
    let inner ← writeAt setting path (if path = [] then none else items[place]?)
    return .list (putItem place inner items)

def writeNamed (name : Text) (setting : Setting) (table : Entries Setting) :
    Option (Entries Setting) :=
  (writeAt setting (Step.ofName name) (some (.table table))).map members

mutual

/-- The setting that JSON stands for. A number that does not fit an integer is a double. -/
def ofJson : Json → Setting
  | .null => .null
  | .bool value => .flag value
  | .number (.integer n) => if fitsWord n then .integer n else .number (.ofInt n)
  | .number (.double n) => .number n
  | .text value => .text value
  | .array items => .list (itemsOfJson items)
  | .object members => .table (membersOfJson members)

def itemsOfJson : List Json → List Setting
  | [] => []
  | item :: rest => ofJson item :: itemsOfJson rest

def membersOfJson : List (Text × Json) → List (Text × Setting)
  | [] => []
  | (name, member) :: rest => (name, ofJson member) :: membersOfJson rest

end

def flagWord? (text : Text) : Option Bool :=
  let word := Text.lower text
  if word = "true".toList then some true
  else if word = "false".toList then some false
  else none

def integerText? (text : Text) : Option Int :=
  let (negative, digits) := Number.takeSign text
  wordOfDigits? negative digits

def doubleText? (text : Text) : Option Double :=
  let (negative, body) := Number.takeSign text
  let word := Text.lowerAscii body
  if word = "nan".toList then some .nan
  else if word = "inf".toList ∨ word = "infinity".toList then some (.infinity negative)
  else Number.numeral? text

/-- The setting that a variable stands for: a flag, an integer, a double or else a text. -/
def ofText (text : Text) : Setting :=
  match flagWord? text with
  | some value => .flag value
  | none =>
    match integerText? text with
    | some n => .integer n
    | none =>
      match doubleText? text with
      | some n => .number n
      | none => .text text

def numberText : Double → Text
  | .nan => "NaN".toList
  | .signed negative rank =>
    Double.withSign negative
      (if rank.val = topRank then "inf".toList
      else if rank.val = 0 then ['0']
      else Double.templateLayout.magnitude rank.val)

def asText? : Setting → Option Text
  | .text value => some value
  | .flag value => some (if value then "true".toList else "false".toList)
  | .integer n => some (Json.Number.text (.integer n))
  | .number n => some (numberText n)
  | _ => none

def asFlag? : Setting → Option Bool
  | .flag value => some value
  | .integer n => some (n != 0)
  | .number n => some (!n.isZero)
  | .text given =>
    let word := String.ofList (Text.lower given)
    if ["1", "true", "on", "yes"].contains word then some true
    else if ["0", "false", "off", "no"].contains word then some false
    else none
  | _ => none

def asNatural? : Setting → Option Nat
  | .flag value => some value.toNat
  | .integer n => if 0 ≤ n then some n.toNat else none
  | .number n => some (n.roundBelow (Nat.pow 2 64))
  | .text given =>
    let word := String.ofList (Text.lower given)
    if ["true", "on", "yes"].contains word then some 1
    else if ["false", "off", "no"].contains word then some 0
    else
      let digits := match given with
        | '+' :: digits => digits
        | digits => digits
      if Text.isDigits digits then Text.natBelow? (Nat.pow 2 64) digits else none
  | _ => none

def asTexts? : Setting → Option (List Text)
  | .list items => items.mapM asText?
  | _ => none

def asOptionalText? : Setting → Option (Option Text)
  | .null => some none
  | setting => setting.asText?.map some

end Setting

namespace Setting

mutual

/-- A setting whose tables are put in order, each as `order` has it for the names that lead to it. -/
def arranged (order : List Text → Layer → Layer) (place : List Text) : Setting → Setting
  | .table members => .table (order place (arrangedAll order place members))
  | setting => setting

def arrangedAll (order : List Text → Layer → Layer) (place : List Text) :
    List (Text × Setting) → List (Text × Setting)
  | [] => []
  | (name, setting) :: rest =>
    (name, arranged order (place ++ [name]) setting) :: arrangedAll order place rest

end

end Setting

namespace Layer

def arranged (order : List Text → Layer → Layer) (layer : Layer) : Layer :=
  order [] (Setting.arrangedAll order [] layer)

/-- Write a layer over a table, name by name. Nothing if a name leads before the beginning of a
list. -/
def writeOver (layer : Layer) (table : Entries Setting) : Option (Entries Setting) :=
  layer.foldlM (fun result entry => Setting.writeNamed entry.1 entry.2 result) table

end Layer

end TagWeave
