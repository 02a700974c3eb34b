import TagWeave.Proofs.Text.Trimming
import TagWeave.Tag.Evaluation

/-! How tags are divided. A name that holds neither a colon nor a parenthesis ends at the colon behind
it, whatever stands in the payload; and where the name is trimmed, white space is taken from the end
of the payload alone. -/
namespace TagWeave

/-- A name that a tag is divided behind and never inside, with no white space around it. -/
structure Text.IsName (name : Text) : Prop where
  colon : ':' ∉ name
  opened : '(' ∉ name
  trimmed : Text.trim name = name

theorem Builtin.isName_name (builtin : Builtin) : Text.IsName builtin.name.toList := by
  cases builtin <;> exact ⟨by decide, by decide, rfl⟩

theorem Registry.get?_standard (builtin : Builtin) :
    standard.get? builtin.name.toList = some (.builtin builtin) := by
  cases builtin <;> decide

namespace Scope

variable {scope : Scope} {draw : Draw} {store : Store} {name : Text} {value : Value}

/-- The store says what a name means before the registry does. -/
theorem resolve?_of_bound (scope : Scope) (bound : store.get? name = some value) :
    scope.resolve? store name = some value := by
  rw [resolve?, bound]

theorem splitTag_name (named : name.IsName) : scope.splitTag store name = (name, none) := by
  simp only [splitTag, Text.cutAt_eq_none_iff.mpr named.colon,
    Text.cutAt_eq_none_iff.mpr named.opened]

theorem splitTag_colon (named : name.IsName) (payload : Text) :
    scope.splitTag store (name ++ ':' :: payload) = (name, some payload) := by
  have divided : Text.cutAt ':' (name ++ ':' :: payload) = some (name, payload) :=
    Text.cutAt_append name payload named.colon
  have front : '(' ∉ name ++ [':'] := by simpa using named.opened
  -- A parenthesis can only stand in the payload, and so behind the colon.
  have opening := Text.cutAt_append_of_not_mem (name ++ [':']) payload front
  rw [List.append_assoc, List.singleton_append] at opening
  rw [splitTag, divided, opening]
  cases Text.cutAt '(' payload with
  | none => rfl
  | some parts => simp

theorem evaluate_name (named : name.IsName) :
    scope.evaluate draw name store = scope.evaluateParts draw name name none store := by
  simp only [evaluate, named.trimmed, splitTag_name named]

/-- The payload is what stands behind the colon, without the white space at its end. -/
theorem evaluate_colon (named : name.IsName) (payload : Text) :
    scope.evaluate draw (name ++ ':' :: payload) store =
      scope.evaluateParts draw (name ++ ':' :: Text.trimEnd payload) name
        (some (Text.trimEnd payload)) store := by
  have trimmed : Text.trim (name ++ ':' :: payload) = name ++ ':' :: Text.trimEnd payload :=
    Text.trim_append_cons named.trimmed rfl payload
  simp only [evaluate, trimmed, splitTag_colon named]

theorem evaluate_data (named : name.IsName) (bound : store.get? name = some value)
    (data : value.isFunction = false) : scope.evaluate draw name store = (value.toText, store) := by
  have meant := scope.resolve?_of_bound bound
  rw [evaluate_name named]
  cases value with
  | function reference => cases data
  | text _ | number _ | bool _ | list _ | object _ => simp only [evaluateParts, meant]

theorem evaluate_call {reference : FunctionRef} (named : name.IsName)
    (meant : scope.resolve? store name = some (.function reference)) (payload : Text) :
    scope.evaluate draw (name ++ ':' :: payload) store =
      scope.functions reference draw (Text.trimEnd payload) store := by
  rw [evaluate_colon named]
  simp only [evaluateParts, meant, Option.getD_some]

/-- The name of a builtin function calls it, where it is registered and the store leaves the name
alone. -/
theorem evaluate_builtin (host : Nat → TagFunction) {registry : Registry} (builtin : Builtin)
    (free : store.get? builtin.name.toList = none)
    (registered : registry.get? builtin.name.toList = some (.builtin builtin)) (payload : Text) :
    Scope.evaluate ⟨functionsWith host, registry⟩ draw (builtin.name.toList ++ ':' :: payload)
      store = builtin.call draw (Text.trimEnd payload) store := by
  have meant : Scope.resolve? ⟨functionsWith host, registry⟩ store builtin.name.toList =
      some (.function (.builtin builtin)) := by
    rw [resolve?, free, registered]
    rfl
  exact evaluate_call builtin.isName_name meant payload

end Scope

end TagWeave
