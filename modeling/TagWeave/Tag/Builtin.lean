import TagWeave.Number.Arithmetic
import TagWeave.Store
import TagWeave.Tag.Condition
import TagWeave.Text.Case

/-! What the builtin functions do. None of them fails: a payload they cannot use gives the empty
text, or `false` from a test. -/
namespace TagWeave

/-- The chance of one evaluation: a number from zero up to but not including one, in steps of two to
the power −53. -/
structure Draw where
  steps : Fin (Nat.pow 2 53)
  deriving Repr

def Draw.toDouble (draw : Draw) : Double := .ofRatio false draw.steps.val (Nat.pow 2 53)

/-- A function of a tag: from the chance of this evaluation, the payload and the store to the text
that replaces the tag and the store it leaves. -/
abbrev TagFunction := Draw → Text → Store → Text × Store

namespace Builtin

def boolText (value : Bool) : Text := (if value then "true" else "false").toList

def onNumber (operation : Double → Double) (payload : Text) : Text :=
  match Number.operand? payload with
  | some n => (operation n).text
  | none => []

/-- A whole number between two operands, both included. -/
def randomText (draw : Draw) (payload : Text) : Text :=
  match Text.cutAt ',' payload with
  | none => []
  | some (low, high) =>
    match Number.operand? low, Number.operand? high with
    | some low, some high =>
      let width := (high.sub low).add .one
      (((draw.toDouble.mul width).add low).floor).text
    | _, _ => []

/-- Bind a name to a list of trimmed texts: `name=a,b,c`. -/
def bindVector (payload : Text) (store : Store) : Store :=
  match Text.cutAt '=' payload with
  | some (name, items) =>
    store.set (Text.trim name)
      (.list ((Text.pieces ',' items).map fun item => .text (Text.trim item)))
  | none => store.set (Text.trim payload) (.list [])

/-- Whether the text after the comma mentions the one before it. A name of a list or of a text
stands for that. -/
def containsTest (payload : Text) (store : Store) : Bool :=
  match Text.cutAt ',' payload with
  | none => false
  | some (needle, haystack) =>
    let haystack := Text.trim haystack
    let searched := match store.get? haystack with
      | some (.list items) => Value.join [','] items
      | some (.text value) => value
      | _ => haystack
    Text.mentions (Text.trim needle) searched

/-- What a pushed name stands for: its value if it is bound, its own text otherwise. -/
def pushed (name : Text) (store : Store) : Value := (store.get? name).getD (.text name)

def appendTo (name : Text) (value : Value) (store : Store) : Store :=
  match store.get? name with
  | some (.list items) => store.set name (.list (items ++ [value]))
  | _ => store

/-- Append to a list: `name->value`. -/
def pushOnto (payload : Text) (store : Store) : Store :=
  match Text.cut ['-', '>'] payload with
  | none => store
  | some (name, value) =>
    let name := Text.trim name
    let value := Text.trim value
    if name = [] ∨ value = [] then store else appendTo name (pushed value store) store

def lengthOf (payload : Text) (store : Store) : Nat :=
  match store.get? (Text.trim payload) with
  | some (.list items) => items.length
  | some (.text value) => value.length
  | _ => 0

def joinText (payload : Text) (store : Store) : Text :=
  match Text.cutAt ',' payload with
  | none => []
  | some (name, separator) =>
    match store.get? (Text.trim name) with
    | some (.list items) => Value.join (Text.trim separator) items
    | _ => []

def elseMark : Text := "(else)".toList

/-- The condition of a choice: the text between the first parentheses, without white space. It is
empty if they close before they open. -/
def conditionOf (payload : Text) : Option Text :=
  match Text.cutAt '(' payload with
  | none => none
  | some (before, after) =>
    if before.contains ')' then some []
    else (Text.cutAt ')' after).map fun parts => parts.1.filter fun c => !Text.isBlank c

/-- The branch of a choice that its condition selects: `(condition)=>then(else)otherwise`. -/
def choice (payload : Text) : Text :=
  match (conditionOf payload).bind evaluateCondition, Text.cut ['=', '>'] payload with
  | some true, some (before, after) =>
    if Text.mentions elseMark before then []
    else Text.trim ((Text.cut elseMark after).elim after Prod.fst)
  | some false, some _ => ((Text.cut elseMark payload).map fun parts => Text.trim parts.2).getD []
  | _, _ => []

def call : Builtin → TagFunction
  | .round, _, payload, store => (onNumber Double.round payload, store)
  | .floor, _, payload, store => (onNumber Double.floor payload, store)
  | .ceil, _, payload, store => (onNumber Double.ceil payload, store)
  | .abs, _, payload, store => (onNumber Double.abs payload, store)
  | .random, draw, payload, store => (randomText draw payload, store)
  | .object, _, payload, store => ([], store.set (Text.trim payload) (.object []))
  | .contains, _, payload, store => (boolText (containsTest payload store), store)
  | .vector, _, payload, store => ([], bindVector payload store)
  | .choose, _, payload, store => (choice payload, store)
  | .isNaN, _, payload, store => (boolText (!Number.startsWithInteger payload), store)
  | .push, _, payload, store => ([], pushOnto payload store)
  | .length, _, payload, store => (Text.ofNat (lengthOf payload store), store)
  | .upper, _, payload, store => (Text.upper payload, store)
  | .lower, _, payload, store => (Text.lower payload, store)
  | .trim, _, payload, store => (Text.trim payload, store)
  | .join, _, payload, store => (joinText payload store, store)

end Builtin

abbrev Functions := FunctionRef → TagFunction

def functionsWith (host : Nat → TagFunction) : Functions
  | .builtin function => function.call
  | .host number => host number

def builtinFunctions : Functions := functionsWith fun _ _ _ store => ([], store)

end TagWeave
