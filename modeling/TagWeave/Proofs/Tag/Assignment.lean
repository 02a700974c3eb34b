import TagWeave.Proofs.Tag.Division
import TagWeave.Proofs.Tag.Effects
import TagWeave.Proofs.Tag.Selectors

/-! Assignments by tags. What a name is bound to decides what is written: the name itself, an entry of
its object or an item of its list. The value is trimmed, and the tag that reads the same place gives
it back. -/
namespace TagWeave

/-- The entries after a value was put under a key: in its place if the key was there, at the end
otherwise, and nothing else is changed. -/
structure Entries.Placed {α : Type} (key : Text) (value : α) (entries changed : Entries α) :
    Prop where
  placed : find? key changed = some value
  others : ∀ other, other ≠ key → find? other changed = find? other entries
  keys : keys changed = if key ∈ keys entries then keys entries else keys entries ++ [key]

theorem Entries.placed_write {α : Type} (key : Text) (value : α) (entries : Entries α) :
    Placed key value entries (write key value entries) where
  placed := by rw [find?_write, if_pos rfl]
  others other different := by rw [find?_write, if_neg (Ne.symm different)]
  keys := keys_write key value entries

theorem Store.placed_set (store : Store) (name : Text) (value : Value) :
    Entries.Placed name value store.entries (store.set name value).entries :=
  Entries.placed_write name value store.entries

variable {scope : Scope} {draw : Draw} {store : Store} {name key value payload : Text}
  {entries : Entries Value} {items : List Value}

theorem assignInto?_eq_none
    (single : ∀ value, store.get? name = some value → value.isCollection = false) :
    assignInto? name payload store = none := by
  unfold assignInto?
  split
  · rename_i bound
    cases single _ bound
  · rename_i bound
    cases single _ bound
  · rfl

namespace Scope

/-- A name that is free, or bound to a single value, is bound to the payload. -/
theorem evaluate_bind (named : name.IsName)
    (meant : (∃ value, store.get? name = some value ∧ value.isCollection = false ∧
        value.isFunction = false) ∨
      (store.get? name = none ∧ scope.registry.get? name = none)) (payload : Text) :
    scope.evaluate draw (name ++ ':' :: payload) store =
      ([], store.set name (.text (Text.trim payload))) := by
  have unassigned : assignInto? name (Text.trimEnd payload) store = none := by
    refine assignInto?_eq_none fun other found => ?_
    rcases meant with ⟨value, bound, single, -⟩ | ⟨free, -⟩
    · rw [bound] at found
      exact Option.some.inj found ▸ single
    · rw [free] at found
      cases found
  rw [evaluate_colon named]
  rcases meant with ⟨value, bound, single, data⟩ | ⟨free, unregistered⟩
  · have meaning := scope.resolve?_of_bound bound
    cases value with
    | list _ | object _ => cases single
    | function _ => cases data
    | text _ | number _ | bool _ =>
      simp only [evaluateParts, meaning, applyPayload, unassigned, Text.trim_trimEnd]
  · have meaning : scope.resolve? store name = none := by
      rw [resolve?, free, unregistered]
      rfl
    simp only [evaluateParts, meaning, applyPayload, unassigned, Text.trim_trimEnd]

/-- An entry of an object is read under its whole key, whatever characters that has. -/
theorem evaluate_entry {found : Value} (named : name.IsName)
    (bound : store.get? name = some (.object entries)) (trimmed : Text.trimEnd key = key)
    (present : Entries.find? key entries = some found) :
    scope.evaluate draw (name ++ ':' :: key) store = (found.toText, store) := by
  have meaning := scope.resolve?_of_bound bound
  rw [evaluate_colon named, trimmed]
  simp only [evaluateParts, meaning, present]

/-- An assignment to an object writes the entry, unless the whole payload is a key already. -/
theorem evaluate_assign_entry (named : name.IsName)
    (bound : store.get? name = some (.object entries)) (single : '=' ∉ key)
    (fresh : Entries.find? (key ++ '=' :: Text.trimEnd value) entries = none) :
    scope.evaluate draw (name ++ ':' :: (key ++ '=' :: value)) store =
      ([], store.set name
        (.object (Entries.write (Text.trim key) (.text (Text.trim value)) entries))) := by
  have meaning := scope.resolve?_of_bound bound
  have divided : Text.cutAt '=' (key ++ '=' :: Text.trimEnd value) =
      some (key, Text.trimEnd value) := Text.cutAt_append _ _ single
  rw [evaluate_colon named, Text.trimEnd_append_cons rfl]
  simp only [evaluateParts, meaning, fresh, applyPayload, assignInto?, divided, bound,
    Text.trim_trimEnd]

/-- A payload that assigns nothing selects items of a list. -/
theorem evaluate_select (named : name.IsName) (bound : store.get? name = some (.list items))
    (unassigned : '=' ∉ payload) :
    scope.evaluate draw (name ++ ':' :: payload) store =
      (selectItems items (Text.trimEnd payload), store) := by
  have meaning := scope.resolve?_of_bound bound
  have undivided : Text.cutAt '=' (Text.trimEnd payload) = none :=
    Text.cutAt_eq_none_iff.mpr fun member =>
      unassigned ((Text.trimEnd_sublist payload).subset member)
  rw [evaluate_colon named]
  simp only [evaluateParts, meaning, applyPayload, assignInto?, undivided]

/-- An assignment to a list writes the item at an index, and nothing behind the end. -/
theorem evaluate_assign_item {index : Text} (named : name.IsName)
    (bound : store.get? name = some (.list items)) (decimal : Text.isDigits index = true)
    (small : Text.natOfDigits index < 2 ^ 53) :
    scope.evaluate draw (name ++ ':' :: (index ++ '=' :: value)) store =
      ([], if Text.natOfDigits index < items.length then
        store.set name (.list (items.set (Text.natOfDigits index) (.text (Text.trim value))))
      else store) := by
  have each := (Text.isDigits_iff.mp decimal).2
  have meaning := scope.resolve?_of_bound bound
  have divided : Text.cutAt '=' (index ++ '=' :: Text.trimEnd value) =
      some (index, Text.trimEnd value) :=
    Text.cutAt_append _ _ (Text.not_mem_of_isDigit each rfl)
  have trimmed := Text.trim_eq_self fun c member => Text.isBlank_of_isDigit (each c member)
  have assigned : assignInto? name (index ++ '=' :: Text.trimEnd value) store =
      some (if Text.natOfDigits index < items.length then
        store.set name (.list (items.set (Text.natOfDigits index) (.text (Text.trim value))))
      else store) := by
    by_cases inside : Text.natOfDigits index < items.length <;>
      simp only [assignInto?, divided, bound, trimmed, Number.index?_digits decimal small,
        Text.trim_trimEnd, inside, if_true, if_false]
  rw [evaluate_colon named, Text.trimEnd_append_cons rfl]
  simp only [evaluateParts, meaning, applyPayload, assigned]

/-- An index of decimal digits reads the item at its position. -/
theorem evaluate_index {index : Text} (named : name.IsName)
    (bound : store.get? name = some (.list items)) (decimal : Text.isDigits index = true)
    (small : Text.natOfDigits index < 2 ^ 53) :
    scope.evaluate draw (name ++ ':' :: index) store =
      ((items[Text.natOfDigits index]?).elim [] Value.toText, store) := by
  have each := (Text.isDigits_iff.mp decimal).2
  have ended := Text.trimEnd_eq_self fun c member => Text.isBlank_of_isDigit (each c member)
  rw [evaluate_select named bound (Text.not_mem_of_isDigit each rfl), ended,
    selectItems_index items decimal small]

/-- What a tag assigns is what the next tag reads. A free name and one of a single value are bound to
the trimmed payload. In an object the trimmed key is given the trimmed value, in its place or at the
end, if the payload is not itself a key; that entry is read under its whole key, colons included. In a
list an index of decimal digits names the item that is written and read; behind the end nothing is
written and nothing is there to read. -/
theorem evaluate_reads_assigned (scope : Scope) (draw later : Draw) (store : Store) {name : Text}
    (named : name.IsName) :
    ((∃ value, store.get? name = some value ∧ value.isCollection = false ∧
          value.isFunction = false) ∨
        (store.get? name = none ∧ scope.registry.get? name = none) →
      ∀ payload, ∃ left,
        scope.evaluate draw (name ++ ':' :: payload) store = ([], left) ∧
        Entries.Placed name (.text (Text.trim payload)) store.entries left.entries ∧
        scope.evaluate later name left = (Text.trim payload, left)) ∧
    (∀ entries, store.get? name = some (.object entries) →
      ∀ key value, '=' ∉ key →
        Entries.find? (key ++ '=' :: Text.trimEnd value) entries = none →
        ∃ changed left,
          scope.evaluate draw (name ++ ':' :: (key ++ '=' :: value)) store = ([], left) ∧
          Entries.Placed (Text.trim key) (.text (Text.trim value)) entries changed ∧
          Entries.Placed name (.object changed) store.entries left.entries ∧
          scope.evaluate later (name ++ ':' :: Text.trim key) left = (Text.trim value, left)) ∧
    (∀ items, store.get? name = some (.list items) →
      ∀ index value, Text.isDigits index = true → Text.natOfDigits index < 2 ^ 53 →
        ∃ left,
          scope.evaluate draw (name ++ ':' :: (index ++ '=' :: value)) store = ([], left) ∧
          (Text.natOfDigits index < items.length →
            Entries.Placed name
              (.list (items.set (Text.natOfDigits index) (.text (Text.trim value))))
              store.entries left.entries ∧
            scope.evaluate later (name ++ ':' :: index) left = (Text.trim value, left)) ∧
          (items.length ≤ Text.natOfDigits index →
            left = store ∧ scope.evaluate later (name ++ ':' :: index) left = ([], left))) := by
  refine ⟨?_, ?_, ?_⟩
  · intro meant payload
    have placed := store.placed_set name (.text (Text.trim payload))
    exact ⟨_, evaluate_bind named meant payload, placed, evaluate_data named placed.placed rfl⟩
  · intro entries bound key value single fresh
    have entry := Entries.placed_write (Text.trim key) (.text (Text.trim value)) entries
    have placed := store.placed_set name
      (.object (Entries.write (Text.trim key) (.text (Text.trim value)) entries))
    exact ⟨_, _, evaluate_assign_entry named bound single fresh, entry, placed,
      evaluate_entry named placed.placed (Text.trimEnd_trim key) entry.placed⟩
  · intro items bound index value decimal small
    have written : scope.evaluate draw (name ++ ':' :: (index ++ '=' :: value)) store = _ :=
      evaluate_assign_item named bound decimal small
    by_cases inside : Text.natOfDigits index < items.length
    · have placed := store.placed_set name
        (.list (items.set (Text.natOfDigits index) (.text (Text.trim value))))
      rw [if_pos inside] at written
      refine ⟨_, written, fun _ => ⟨placed, ?_⟩, fun outside => absurd inside (by omega)⟩
      rw [evaluate_index named placed.placed decimal small, List.getElem?_set_self inside]
      rfl
    · rw [if_neg inside] at written
      refine ⟨_, written, fun within => absurd within inside, fun outside => ⟨rfl, ?_⟩⟩
      rw [evaluate_index named bound decimal small, List.getElem?_eq_none outside]
      rfl

/-- Names of a text, an object and a list, each assigned to and read; the key of the entry has a colon
in it, and the index a leading zero. -/
theorem evaluate_reads_assigned_drawer :
    let scope : Scope := ⟨builtinFunctions, .standard⟩
    let drawer := Store.ofNamed [("note".toList, .text "old".toList),
      ("user".toList, .object [("a:b".toList, .bool true), ("c".toList, .number .one)]),
      ("list".toList, .list [.text "x".toList, .text "y".toList])]
    (Text.IsName "note".toList ∧ Text.IsName "user".toList ∧ Text.IsName "list".toList) ∧
    (∃ left, scope.evaluate ⟨0⟩ "note: new ".toList drawer = ([], left) ∧
      scope.evaluate ⟨0⟩ "note".toList left = ("new".toList, left)) ∧
    (∃ left, scope.evaluate ⟨0⟩ "user: a:b = d=e ".toList drawer = ([], left) ∧
      scope.evaluate ⟨0⟩ "user:a:b".toList left = ("d=e".toList, left)) ∧
    (∃ left, scope.evaluate ⟨0⟩ "list:01= z".toList drawer = ([], left) ∧
      left.get? "list".toList = some (.list [.text "x".toList, .text "z".toList]) ∧
      scope.evaluate ⟨0⟩ "list:01".toList left = ("z".toList, left)) := by
  intro scope drawer
  have note : Text.IsName "note".toList := ⟨by decide, by decide, rfl⟩
  have user : Text.IsName "user".toList := ⟨by decide, by decide, rfl⟩
  have list : Text.IsName "list".toList := ⟨by decide, by decide, rfl⟩
  refine ⟨⟨note, user, list⟩, ?_, ?_, ?_⟩
  · obtain ⟨left, assigned, -, read⟩ := (evaluate_reads_assigned scope ⟨0⟩ ⟨0⟩ drawer note).1
      (.inl ⟨_, rfl, rfl, rfl⟩) " new ".toList
    exact ⟨left, assigned, read⟩
  · obtain ⟨changed, left, assigned, -, -, read⟩ :=
      (evaluate_reads_assigned scope ⟨0⟩ ⟨0⟩ drawer user).2.1 _ rfl " a:b ".toList
        " d=e ".toList (by decide) rfl
    exact ⟨left, assigned, read⟩
  · obtain ⟨left, assigned, within, -⟩ :=
      (evaluate_reads_assigned scope ⟨0⟩ ⟨0⟩ drawer list).2.2 _ rfl "01".toList " z".toList rfl
        (by decide)
    obtain ⟨placed, read⟩ := within (by decide)
    exact ⟨left, assigned, placed.placed, read⟩

end Scope

end TagWeave
