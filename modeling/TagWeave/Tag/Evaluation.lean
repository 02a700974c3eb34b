import TagWeave.Tag.Builtin
import TagWeave.Tag.Registry

/-! Evaluation of one tag, the text between a pair of braces. A name means what the store binds to
it, or else the registered function; what the name means decides how the payload is read. -/
namespace TagWeave

structure Scope where
  functions : Functions
  registry : Registry

namespace Scope

def resolve? (scope : Scope) (store : Store) (name : Text) : Option Value :=
  match store.get? name with
  | some value => some value
  | none => (scope.registry.get? name).map .function

def meansFunction (scope : Scope) (store : Store) (name : Text) : Bool :=
  match scope.resolve? store name with
  | some value => value.isFunction
  | none => false

/-- Divide a tag into its name and its payload, if it has one. The payload follows the first colon;
but a parenthesis before any colon begins the payload of a name that means a function. -/
def splitTag (scope : Scope) (store : Store) (content : Text) : Text × Option Text :=
  let atColon := match Text.cutAt ':' content with
    | some (name, payload) => (name, some payload)
    | none => (content, none)
  match Text.cutAt '(' content with
  | none => atColon
  | some (before, after) =>
    let name := Text.trimEnd before
    if before.contains ':' then atColon
    else if scope.meansFunction store name then (name, some ('(' :: after))
    else atColon

end Scope

/-- Two numbers with a hyphen between them, as bounds of a range. A bound of sixty-four bits or more
is none. -/
def rangeBounds? (selector : Text) : Option (Option Nat × Option Nat) :=
  match Text.cutAt '-' selector with
  | none => none
  | some (first, last) =>
    if Text.isDigits first && Text.isDigits last then
      some (Text.natBelow? (Nat.pow 2 64) first, Text.natBelow? (Nat.pow 2 64) last)
    else none

/-- The text of the items that a selector picks: `a-b` for a range, `a+` for all from one on, or
the index of one item. -/
def selectItems (items : List Value) (selector : Text) : Text :=
  match rangeBounds? selector with
  | some (some first, some last) =>
    if first ≤ last then Value.join [' '] ((items.drop first).take (last + 1 - first)) else []
  | some _ => []
  | none =>
    if selector.getLast? = some '+' then
      match Number.index? selector.dropLast with
      | some first => Value.join [' '] (items.drop first)
      | none => []
    else ((Number.index? selector).bind (items[·]?)).elim [] Value.toText

/-- Append by the short form `list->value`, where the list is bound to the name. -/
def pushShort? (content : Text) (store : Store) : Option Store :=
  match Text.cut ['-', '>'] content with
  | none => none
  | some (name, value) =>
    let name := Text.trim name
    let value := Text.trim value
    match value, store.get? name with
    | _ :: _, some (.list items) =>
      some (store.set name (.list (items ++ [Builtin.pushed value store])))
    | _, _ => none

/-- Write `key=value` into the list or object that a name is bound to. Nothing if the payload is no
such assignment or the name is bound to neither. -/
def assignInto? (name payload : Text) (store : Store) : Option Store :=
  match Text.cutAt '=' payload, store.get? name with
  | some (key, value), some (.list items) =>
    match Number.index? (Text.trim key) with
    | some index =>
      if index < items.length then
        some (store.set name (.list (items.set index (.text (Text.trim value)))))
      else some store
    | none => some store
  | some (key, value), some (.object entries) =>
    let entries := Entries.write (Text.trim key) (.text (Text.trim value)) entries
    some (store.set name (.object entries))
  | _, _ => none

namespace Scope

/-- What an object gives for a payload that is no entry of its own: the entry before the colon. An
entry that is a function is called with what follows the colon. -/
def readEntry (scope : Scope) (draw : Draw) (entries : Entries Value) (payload : Text)
    (store : Store) : Text × Store :=
  let (key, rest) := (Text.cutAt ':' payload).getD (payload, [])
  match Entries.find? key entries with
  | some (.function reference) => scope.functions reference draw rest store
  | some value => (value.toText, store)
  | none => ("null".toList, store)

def applyPayload (scope : Scope) (draw : Draw) (name payload : Text) (meaning : Option Value)
    (store : Store) : Text × Store :=
  match assignInto? name payload store with
  | some assigned => ([], assigned)
  | none =>
    match meaning with
    | some (.list items) => (selectItems items payload, store)
    | some (.object entries) => scope.readEntry draw entries payload store
    | _ => ([], store.set name (.text (Text.trim payload)))

/-- The text that a tag gives when its name and payload are known. `content` is the whole tag. -/
def evaluateParts (scope : Scope) (draw : Draw) (content name : Text) (payload : Option Text)
    (store : Store) : Text × Store :=
  match scope.resolve? store name, payload with
  | some (.function reference), payload =>
    scope.functions reference draw (payload.getD []) store
  | some (.object entries), some payload =>
    match Entries.find? payload entries with
    | some value => (value.toText, store)
    | none => scope.applyPayload draw name payload (some (.object entries)) store
  | meaning, some payload => scope.applyPayload draw name payload meaning store
  | some value, none => (value.toText, store)
  | none, none =>
    match pushShort? content store with
    | some pushed => ([], pushed)
    | none => ([], store)

def evaluate (scope : Scope) (draw : Draw) (content : Text) (store : Store) : Text × Store :=
  let content := Text.trim content
  let (name, payload) := scope.splitTag store content
  scope.evaluateParts draw content name payload store

end Scope

end TagWeave
