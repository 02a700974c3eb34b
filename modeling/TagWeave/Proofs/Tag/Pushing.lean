import TagWeave.Proofs.Tag.Division

/-! Two ways to append to a list. A tag with an arrow and no name that means anything pushes in short,
and the builtin function pushes on the same payload. They divide, trim and look up alike, but the long
form keeps off a list whose name is empty, and the short form does not. -/
namespace TagWeave

/-- The store after the name or the literal text of an item was pushed onto a list. -/
def Store.pushedOnto (store : Store) (name item : Text) (items : List Value) : Store :=
  store.set name (.list (items ++ [Builtin.pushed item store]))

variable {store : Store} {content front back : Text} {items : List Value}

/-- A push is seen: the list of the name is longer than before. -/
theorem Store.pushedOnto_ne {name item : Text} (list : store.get? name = some (.list items)) :
    store.pushedOnto name item items ≠ store := by
  intro same
  have found : (store.pushedOnto name item items).get? name =
      some (.list (items ++ [Builtin.pushed item store])) := by
    rw [pushedOnto, get?_set, if_pos rfl]
  rw [same, list] at found
  simp at found

theorem pushShort?_eq (arrow : Text.cut ['-', '>'] content = some (front, back))
    (list : store.get? (Text.trim front) = some (.list items)) :
    pushShort? content store =
      if Text.trim back = [] then none
      else some (store.pushedOnto (Text.trim front) (Text.trim back) items) := by
  simp only [pushShort?, arrow, list, Store.pushedOnto]
  cases Text.trim back with
  | nil => rfl
  | cons first rest => rfl

theorem Builtin.pushOnto_eq (arrow : Text.cut ['-', '>'] content = some (front, back))
    (list : store.get? (Text.trim front) = some (.list items)) :
    pushOnto content store =
      if Text.trim front = [] ∨ Text.trim back = [] then store
      else store.pushedOnto (Text.trim front) (Text.trim back) items := by
  simp only [pushOnto, arrow, appendTo, list, Store.pushedOnto]

namespace Scope

/-- A tag that is one name without a meaning pushes, or gives nothing. -/
theorem evaluate_undefined {scope : Scope} {draw : Draw} (trimmed : Text.trim content = content)
    (whole : scope.splitTag store content = (content, none))
    (unresolved : scope.resolve? store content = none) :
    scope.evaluate draw content store = ([], (pushShort? content store).getD store) := by
  simp only [evaluate, trimmed, whole, evaluateParts, unresolved]
  cases pushShort? content store with
  | none => rfl
  | some pushed => rfl

/-- The short form pushes whenever there is an item to push, and the long form where the list has a
name as well. So they give the same text and leave the same store, except for an item on the list
without a name: the short form appends it and the long form does not. -/
theorem evaluate_push_agrees_iff (host : Nat → TagFunction) (registry : Registry) (draw later : Draw)
    (free : store.get? Builtin.push.name.toList = none)
    (registered : registry.get? Builtin.push.name.toList = some (.builtin .push))
    (trimmed : Text.trim content = content)
    (whole : Scope.splitTag ⟨functionsWith host, registry⟩ store content = (content, none))
    (unresolved : Scope.resolve? ⟨functionsWith host, registry⟩ store content = none)
    (arrow : Text.cut ['-', '>'] content = some (front, back))
    (list : store.get? (Text.trim front) = some (.list items)) :
    let scope : Scope := ⟨functionsWith host, registry⟩
    let short := scope.evaluate draw content store
    let long := scope.evaluate later ("push:".toList ++ content) store
    let left := store.pushedOnto (Text.trim front) (Text.trim back) items
    short = ([], if Text.trim back = [] then store else left) ∧
    long = ([], if Text.trim front = [] ∨ Text.trim back = [] then store else left) ∧
    (short = long ↔ Text.trim front ≠ [] ∨ Text.trim back = []) := by
  intro scope short long left
  have ended : Text.trimEnd content = content := by rw [← trimmed, Text.trimEnd_trim]
  have written : short = ([], if Text.trim back = [] then store else left) := by
    have undefined : short = ([], (pushShort? content store).getD store) :=
      evaluate_undefined trimmed whole unresolved
    rw [undefined, pushShort?_eq arrow list]
    by_cases nothing : Text.trim back = []
    · rw [if_pos nothing, if_pos nothing, Option.getD_none]
    · rw [if_neg nothing, if_neg nothing, Option.getD_some]
  have called : long =
      ([], if Text.trim front = [] ∨ Text.trim back = [] then store else left) := by
    have push : long = Builtin.push.call later (Text.trimEnd content) store :=
      evaluate_builtin host .push free registered content
    rw [push, ended, Builtin.call, Builtin.pushOnto_eq arrow list]
  refine ⟨written, called, ?_⟩
  have changed : left ≠ store := Store.pushedOnto_ne list
  rw [written, called]
  by_cases nothing : Text.trim back = []
  · simp [nothing]
  · by_cases nameless : Text.trim front = []
    · simp [nothing, nameless, changed]
    · simp [nothing, nameless]

/-- Both forms append the value of a bound name, white space around the arrow or not. -/
theorem evaluate_push_agrees_iff_fruit :
    let scope : Scope := ⟨builtinFunctions, .standard⟩
    let store := Store.ofNamed
      [("list".toList, .list [.text "apple".toList]), ("fruit".toList, .text "pear".toList)]
    let content := "list -> fruit".toList
    let left := store.set "list".toList (.list [.text "apple".toList, .text "pear".toList])
    (store.get? "push".toList = none ∧
      scope.registry.get? "push".toList = some (.builtin .push) ∧
      Text.trim content = content ∧ scope.splitTag store content = (content, none) ∧
      scope.resolve? store content = none ∧
      Text.cut ['-', '>'] content = some ("list ".toList, " fruit".toList) ∧
      store.get? (Text.trim "list ".toList) = some (.list [.text "apple".toList])) ∧
    scope.evaluate ⟨0⟩ content store = ([], left) ∧
    scope.evaluate ⟨0⟩ ("push:".toList ++ content) store = ([], left) := by
  intro scope store content left
  have free : store.get? "push".toList = none := rfl
  have registered := Registry.get?_standard .push
  have whole : scope.splitTag store content = (content, none) := rfl
  have unresolved : scope.resolve? store content = none := by decide
  have arrow : Text.cut ['-', '>'] content = some ("list ".toList, " fruit".toList) := rfl
  have list : store.get? (Text.trim "list ".toList) = some (.list [.text "apple".toList]) := rfl
  obtain ⟨short, -, agree⟩ := evaluate_push_agrees_iff (fun _ _ _ store => ([], store)) .standard
    ⟨0⟩ ⟨0⟩ free registered rfl whole unresolved arrow list
  have same := agree.mpr (.inl (by decide))
  exact ⟨⟨free, registered, rfl, whole, unresolved, arrow, list⟩, short, same ▸ short⟩

/-- On the list without a name the short form appends and the long form does nothing. -/
theorem evaluate_push_nameless :
    let scope : Scope := ⟨builtinFunctions, .standard⟩
    let store := Store.ofNamed [([], .list [])]
    let content := "->v".toList
    let left := store.set [] (.list [.text "v".toList])
    (store.get? "push".toList = none ∧
      scope.registry.get? "push".toList = some (.builtin .push) ∧
      Text.trim content = content ∧ scope.splitTag store content = (content, none) ∧
      scope.resolve? store content = none ∧
      Text.cut ['-', '>'] content = some ([], "v".toList) ∧
      store.get? (Text.trim []) = some (.list [])) ∧
    scope.evaluate ⟨0⟩ content store = ([], left) ∧
    scope.evaluate ⟨0⟩ ("push:".toList ++ content) store = ([], store) ∧ left ≠ store := by
  intro scope store content left
  have registered := Registry.get?_standard .push
  have unresolved : scope.resolve? store content = none := by decide
  have changed : store.pushedOnto [] "v".toList [] ≠ store := Store.pushedOnto_ne rfl
  exact ⟨⟨rfl, registered, rfl, rfl, unresolved, rfl, rfl⟩, rfl, rfl, changed⟩

end Scope

end TagWeave
