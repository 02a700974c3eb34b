import TagWeave.Proofs.Text.Parts
import TagWeave.Tag.Evaluation

/-! What the evaluation of one tag can do. A tag gives a part of its own text, something read from the
store or a text of a fixed form, and it changes at most one binding. Invariants of runs are proved on
these effects; how a tag is divided and which name means what is settled here once. -/
namespace TagWeave

/-- The values that a tag can read by itself: those that names are bound to, and the entries of
objects among them. -/
inductive Store.Holds (store : Store) (value : Value) : Prop where
  | bound {name : Text} (bound : store.get? name = some value)
  | entry {name key : Text} {entries : Entries Value}
      (bound : store.get? name = some (.object entries))
      (found : Entries.find? key entries = some value)

/-- The functions that a tag can call: those registered under names that the store leaves free, and
those that the store holds. -/
def Scope.Reaches (scope : Scope) (store : Store) (reference : FunctionRef) : Prop :=
  (∃ name, store.get? name = none ∧ scope.registry.get? name = some reference) ∨
    store.Holds (.function reference)

def Value.isCollection : Value → Bool
  | .list _ | .object _ => true
  | .text _ | .number _ | .bool _ | .function _ => false

/-- What may come of a tag, the text that replaces it and the store it leaves, if of the functions
that make collections only the `callable` ones are called. -/
inductive Effect (callable : Builtin → Prop) (content : Text) (store : Store) :
    Text → Store → Prop where
  | part {part : Text} (inside : part.Sublist content) : Effect callable content store part store
  | upper {part : Text} (inside : part.Sublist content) :
      Effect callable content store (Text.upper part) store
  | lower {part : Text} (inside : part.Sublist content) :
      Effect callable content store (Text.lower part) store
  | number (n : Double) : Effect callable content store n.text store
  | truth (value : Bool) : Effect callable content store (Builtin.boolText value) store
  | size (name : Text) : Effect callable content store (Text.ofNat (Builtin.lengthOf name store)) store
  | missing : Effect callable content store "null".toList store
  | read {value : Value} (held : store.Holds value) :
      Effect callable content store value.toText store
  | select {name : Text} {items picked : List Value} (bound : store.get? name = some (.list items))
      (among : picked.Sublist items) : Effect callable content store (Value.join [' '] picked) store
  | join {name separator : Text} {items : List Value} (bound : store.get? name = some (.list items))
      (inside : separator.Sublist content) :
      Effect callable content store (Value.join separator items) store
  /-- No collection is written over. -/
  | bind {name value : Text}
      (single : ∀ old, store.get? name = some old → old.isCollection = false)
      (inside : value.Sublist content) :
      Effect callable content store [] (store.set name (.text value))
  | vector {name : Text} {parts : List Text} (called : callable .vector)
      (inside : (Text.joined [','] parts).Sublist content) :
      Effect callable content store [] (store.set name (.list (parts.map .text)))
  | object {name : Text} (called : callable .object) :
      Effect callable content store [] (store.set name (.object []))
  | append {name value : Text} {items : List Value} (bound : store.get? name = some (.list items))
      (inside : value.Sublist content) :
      Effect callable content store []
        (store.set name (.list (items ++ [Builtin.pushed value store])))
  | slot {name value : Text} {items : List Value} {index : Nat}
      (bound : store.get? name = some (.list items)) (inside : value.Sublist content) :
      Effect callable content store [] (store.set name (.list (items.set index (.text value))))
  | entry {name key value : Text} {entries : Entries Value}
      (bound : store.get? name = some (.object entries)) (key_inside : key.Sublist content)
      (inside : value.Sublist content) :
      Effect callable content store []
        (store.set name (.object (Entries.write key (.text value) entries)))

variable {callable : Builtin → Prop} {scope : Scope} {draw : Draw} {content payload name : Text}
  {store left : Store} {replacement : Text}

namespace Effect

theorem nothing : Effect callable content store [] store := .part (List.nil_sublist _)

/-- What may come of a payload may come of a tag around it. -/
theorem of_sublist (effect : Effect callable payload store replacement left)
    (around : payload.Sublist content) : Effect callable content store replacement left := by
  cases effect with
  | part inside => exact .part (inside.trans around)
  | upper inside => exact .upper (inside.trans around)
  | lower inside => exact .lower (inside.trans around)
  | number n => exact .number n
  | truth value => exact .truth value
  | size name => exact .size name
  | missing => exact .missing
  | read held => exact .read held
  | select bound among => exact .select bound among
  | join bound inside => exact .join bound (inside.trans around)
  | bind single inside => exact .bind single (inside.trans around)
  | vector called inside => exact .vector called (inside.trans around)
  | object called => exact .object called
  | append bound inside => exact .append bound (inside.trans around)
  | slot bound inside => exact .slot bound (inside.trans around)
  | entry bound key_inside inside =>
    exact .entry bound (key_inside.trans around) (inside.trans around)

end Effect

namespace Builtin

theorem onNumber_effect (operation : Double → Double) (payload : Text) (store : Store) :
    Effect callable payload store (onNumber operation payload) store := by
  unfold onNumber
  split
  · exact .number _
  · exact .nothing

theorem randomText_effect (draw : Draw) (payload : Text) (store : Store) :
    Effect callable payload store (randomText draw payload) store := by
  unfold randomText
  split
  · exact .nothing
  · split
    · exact .number _
    · exact .nothing

theorem bindVector_effect (called : callable .vector) (payload : Text) (store : Store) :
    Effect callable payload store [] (bindVector payload store) := by
  unfold bindVector
  split
  · rename_i name items found
    have trimmed : (Text.joined [','] ((Text.pieces ',' items).map Text.trim)).Sublist
        (Text.joined [','] (Text.pieces ',' items)) :=
      Text.joined_map_sublist Text.trim_sublist _
    rw [Text.joined_pieces] at trimmed
    have effect : Effect callable payload store []
        (store.set (Text.trim name) (.list (((Text.pieces ',' items).map Text.trim).map .text))) :=
      .vector called (trimmed.trans (Text.cutAt_sublists found).2)
    rwa [List.map_map] at effect
  · have none : (Text.joined [','] []).Sublist payload := List.nil_sublist payload
    exact .vector called none

theorem pushOnto_effect (payload : Text) (store : Store) :
    Effect callable payload store [] (pushOnto payload store) := by
  unfold pushOnto
  split
  · exact .nothing
  · rename_i name value found
    dsimp only
    split
    · exact .nothing
    · unfold appendTo
      split
      · rename_i items bound
        exact .append bound ((Text.trim_sublist _).trans (Text.cut_sublists found).2)
      · exact .nothing

theorem joinText_effect (payload : Text) (store : Store) :
    Effect callable payload store (joinText payload store) store := by
  unfold joinText
  split
  · exact .nothing
  · rename_i name separator found
    split
    · rename_i items bound
      exact .join bound ((Text.trim_sublist _).trans (Text.cutAt_sublists found).2)
    · exact .nothing

theorem choice_sublist (payload : Text) : (choice payload).Sublist payload := by
  unfold choice
  split
  · rename_i before after _ arrow
    have behind := (Text.cut_sublists arrow).2
    split
    · exact List.nil_sublist _
    · apply (Text.trim_sublist _).trans
      cases found : Text.cut elseMark after with
      | none => simpa using behind
      | some parts => exact (Text.cut_sublists found).1.trans behind
  · cases found : Text.cut elseMark payload with
    | none => simp
    | some parts => exact (Text.trim_sublist _).trans (Text.cut_sublists found).2
  · exact List.nil_sublist _

theorem call_effect (builtin : Builtin) (allowed : callable builtin) (draw : Draw) (payload : Text)
    (store : Store) :
    Effect callable payload store (builtin.call draw payload store).1
      (builtin.call draw payload store).2 := by
  cases builtin with
  | round | floor | ceil | abs => exact onNumber_effect _ payload store
  | random => exact randomText_effect draw payload store
  | object => exact .object allowed
  | contains | isNaN => exact .truth _
  | vector => exact bindVector_effect allowed payload store
  | choose => exact .part (choice_sublist payload)
  | push => exact pushOnto_effect payload store
  | length => exact .size payload
  | upper => exact .upper (List.Sublist.refl _)
  | lower => exact .lower (List.Sublist.refl _)
  | trim => exact .part (Text.trim_sublist payload)
  | join => exact joinText_effect payload store

end Builtin

theorem selectItems_eq_join (items : List Value) (selector : Text) :
    ∃ picked : List Value, picked.Sublist items ∧
      selectItems items selector = Value.join [' '] picked := by
  unfold selectItems
  split
  · split
    · exact ⟨_, (List.take_sublist _ _).trans (List.drop_sublist _ _), rfl⟩
    · exact ⟨[], List.nil_sublist _, rfl⟩
  · exact ⟨[], List.nil_sublist _, rfl⟩
  · split
    · split
      · exact ⟨_, List.drop_sublist _ _, rfl⟩
      · exact ⟨[], List.nil_sublist _, rfl⟩
    · cases found : (Number.index? selector).bind (items[·]?) with
      | none => exact ⟨[], List.nil_sublist _, rfl⟩
      | some item =>
        obtain ⟨index, _, here⟩ := Option.bind_eq_some_iff.mp found
        exact ⟨[item], List.singleton_sublist.mpr (List.mem_of_getElem? here), rfl⟩

theorem pushShort_effect (pushed : pushShort? content store = some left) :
    Effect callable content store [] left := by
  unfold pushShort? at pushed
  split at pushed
  · cases pushed
  · rename_i name value found
    dsimp only at pushed
    split at pushed
    · rename_i first rest items written bound
      have inside := (Text.trim_sublist value).trans (Text.cut_sublists found).2
      cases pushed
      exact .append bound inside
    · cases pushed

theorem assignInto_effect (assigned : assignInto? name payload store = some left) :
    Effect callable payload store [] left := by
  unfold assignInto? at assigned
  split at assigned
  · rename_i key value items found bound
    have inside := (Text.trim_sublist value).trans (Text.cutAt_sublists found).2
    split at assigned
    · split at assigned
      · cases assigned
        exact .slot bound inside
      · cases assigned
        exact .nothing
    · cases assigned
      exact .nothing
  · rename_i key value entries found bound
    have inside := (Text.trim_sublist value).trans (Text.cutAt_sublists found).2
    have key_inside := (Text.trim_sublist key).trans (Text.cutAt_sublists found).1
    cases assigned
    exact .entry bound key_inside inside
  · cases assigned

namespace Scope

theorem splitTag_sublist (scope : Scope) (store : Store) (content : Text) :
    ((scope.splitTag store content).2.getD []).Sublist content := by
  have colon : ∀ name payload, Text.cutAt ':' content = some (name, payload) →
      payload.Sublist content := fun _ _ found => (Text.cutAt_sublists found).2
  have opening : ∀ before after, Text.cutAt '(' content = some (before, after) →
      ('(' :: after).Sublist content := by
    intro before after found
    rw [(Text.cutAt_eq_some found).1]
    exact List.sublist_append_right _ _
  unfold splitTag
  cases atColon : Text.cutAt ':' content with
  | none =>
    dsimp only
    repeat' split
    · exact List.nil_sublist _
    · exact List.nil_sublist _
    · exact opening _ _ ‹_›
    · exact List.nil_sublist _
  | some parts =>
    have rest := colon _ _ atColon
    dsimp only
    repeat' split
    · exact rest
    · exact rest
    · exact opening _ _ ‹_›
    · exact rest

theorem resolve?_eq_get?
    (data : ∀ reference, scope.resolve? store name ≠ some (.function reference)) :
    scope.resolve? store name = store.get? name := by
  unfold resolve? at data ⊢
  cases bound : store.get? name with
  | some value => rfl
  | none =>
    cases registered : scope.registry.get? name with
    | none => rfl
    | some reference =>
      rw [bound, registered] at data
      exact absurd rfl (data reference)

theorem reaches_of_resolve? {reference : FunctionRef}
    (resolved : scope.resolve? store name = some (.function reference)) :
    scope.Reaches store reference := by
  unfold resolve? at resolved
  split at resolved
  · rename_i bound
    exact .inr (.bound (bound.trans resolved))
  · rename_i free
    obtain ⟨found, registered, same⟩ := Option.map_eq_some_iff.mp resolved
    cases same
    exact .inl ⟨name, free, registered⟩

section

variable (calls : ∀ reference, scope.Reaches store reference → ∀ draw payload,
  Effect callable payload store (scope.functions reference draw payload store).1
    (scope.functions reference draw payload store).2)
include calls

theorem readEntry_effect {entries : Entries Value} (bound : store.get? name = some (.object entries))
    (draw : Draw) (payload : Text) :
    Effect callable payload store (scope.readEntry draw entries payload store).1
      (scope.readEntry draw entries payload store).2 := by
  have rest_inside : ((Text.cutAt ':' payload).getD (payload, [])).2.Sublist payload := by
    cases found : Text.cutAt ':' payload with
    | none => exact List.nil_sublist _
    | some parts => exact (Text.cutAt_sublists found).2
  unfold readEntry
  dsimp only
  split
  · rename_i reference found
    have held := Store.Holds.entry bound found
    exact (calls reference (.inr held) draw _).of_sublist rest_inside
  · rename_i value _ found
    exact .read (.entry bound found)
  · exact .missing

theorem applyPayload_effect (draw : Draw) (name payload : Text) :
    Effect callable payload store (scope.applyPayload draw name payload (store.get? name) store).1
      (scope.applyPayload draw name payload (store.get? name) store).2 := by
  unfold applyPayload
  split
  · rename_i assigned found
    exact assignInto_effect found
  · split
    · rename_i items bound
      obtain ⟨picked, among, same⟩ := selectItems_eq_join items payload
      rw [same]
      exact .select bound among
    · rename_i entries bound
      exact readEntry_effect calls bound draw payload
    · rename_i no_list no_object
      refine .bind ?_ (Text.trim_sublist payload)
      intro old bound
      cases old with
      | list items => exact absurd bound (no_list items)
      | object entries => exact absurd bound (no_object entries)
      | text _ | number _ | bool _ | function _ => rfl

theorem evaluateParts_effect {payload : Option Text} (inside : (payload.getD []).Sublist content)
    (draw : Draw) (name : Text) :
    Effect callable content store (scope.evaluateParts draw content name payload store).1
      (scope.evaluateParts draw content name payload store).2 := by
  unfold evaluateParts
  split
  · rename_i reference resolved
    exact (calls reference (reaches_of_resolve? resolved) draw _).of_sublist inside
  · rename_i entries payload resolved
    have bound : store.get? name = some (.object entries) :=
      (resolve?_eq_get? (by simp [resolved])).symm.trans resolved
    split
    · rename_i found
      exact .read (.entry bound found)
    · rw [← bound]
      exact (applyPayload_effect calls draw name payload).of_sublist inside
  · rename_i meaning payload no_function _
    rw [resolve?_eq_get? no_function]
    exact (applyPayload_effect calls draw name payload).of_sublist inside
  · rename_i value no_function resolved
    have data : ∀ reference, scope.resolve? store name ≠ some (.function reference) := by
      intro reference called
      rw [resolved] at called
      exact no_function reference (Option.some.inj called)
    exact .read (.bound ((resolve?_eq_get? data).symm.trans resolved))
  · split
    · rename_i pushed found
      exact pushShort_effect found
    · exact .nothing

/-- The effect of a tag, if the functions that it can call have effects of tags. -/
theorem evaluate_effect (draw : Draw) (content : Text) :
    Effect callable content store (scope.evaluate draw content store).1
      (scope.evaluate draw content store).2 :=
  (evaluateParts_effect calls (scope.splitTag_sublist store (Text.trim content)) draw _).of_sublist
    (Text.trim_sublist content)

end

theorem evaluate_builtin_effect (registry : Registry) (draw : Draw) (content : Text) :
    Effect (fun _ => True) content store
      (evaluate ⟨builtinFunctions, registry⟩ draw content store).1
      (evaluate ⟨builtinFunctions, registry⟩ draw content store).2 := by
  apply evaluate_effect
  rintro (builtin | host) - draw payload
  · exact builtin.call_effect trivial draw payload store
  · exact .nothing

end Scope

def Registry.Only (registry : Registry) (allowed : List Builtin) : Prop :=
  ∀ entry ∈ registry.entries, entry.2 ∈ allowed.map FunctionRef.builtin

instance (registry : Registry) (allowed : List Builtin) : Decidable (registry.Only allowed) :=
  inferInstanceAs (Decidable (∀ _ ∈ _, _))

/-- The effect of a tag that can call builtin functions only: none other is registered, and the store
holds none. -/
theorem Registry.Only.evaluate_effect {registry : Registry} {allowed : List Builtin}
    (only : registry.Only allowed) (free : ∀ reference, ¬ store.Holds (.function reference))
    (host : Nat → TagFunction) (draw : Draw) (content : Text) :
    Effect (· ∈ allowed) content store
      (Scope.evaluate ⟨functionsWith host, registry⟩ draw content store).1
      (Scope.evaluate ⟨functionsWith host, registry⟩ draw content store).2 := by
  apply Scope.evaluate_effect
  rintro reference (⟨name, -, registered⟩ | held) draw payload
  · obtain ⟨builtin, listed, rfl⟩ := List.mem_map.mp (only _ (Entries.mem_of_find? registered))
    exact builtin.call_effect listed draw payload store
  · exact absurd held (free reference)

end TagWeave
