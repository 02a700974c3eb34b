import TagWeave.Proofs.Engine.Evaluations
import TagWeave.Proofs.Tag.Writes

/-! Collections never degrade. Without the functions that make them, tags write into lists and objects
but never over them: a list loses no items and an object no keys, whatever a run does. -/
namespace TagWeave

/-- What may become of a value: of a list, a list that is not shorter; of an object, one with its keys
in front in their order; of anything else, any value. -/
inductive Value.GrowsTo : Value → Value → Prop where
  | single {old new : Value} (single : old.isCollection = false) : GrowsTo old new
  | list {items grown : List Value} (longer : items.length ≤ grown.length) :
      GrowsTo (.list items) (.list grown)
  | object {entries grown : Entries Value} (kept : Entries.keys entries <+: Entries.keys grown) :
      GrowsTo (.object entries) (.object grown)

/-- Each name stays bound, to what its value may become. -/
def Store.Grows (store left : Store) : Prop :=
  ∀ name old, store.get? name = some old → ∃ new, left.get? name = some new ∧ old.GrowsTo new

variable {store left final : Store} {value first second third : Value} {name content replacement : Text}
  {callable : Builtin → Prop}

namespace Value.GrowsTo

theorem refl (value : Value) : value.GrowsTo value := by
  cases value with
  | list items => exact .list (Nat.le_refl _)
  | object entries => exact .object List.prefix_rfl
  | text _ | number _ | bool _ | function _ => exact .single rfl

theorem trans (before : first.GrowsTo second) (after : second.GrowsTo third) :
    first.GrowsTo third := by
  cases before with
  | single single => exact .single single
  | list longer =>
    cases after with
    | single single => cases single
    | list further => exact .list (Nat.le_trans longer further)
  | object kept =>
    cases after with
    | single single => cases single
    | object further => exact .object (kept.trans further)

end Value.GrowsTo

namespace Store.Grows

theorem refl (store : Store) : store.Grows store := fun _ old bound => ⟨old, bound, .refl old⟩

theorem trans (before : store.Grows left) (after : left.Grows final) : store.Grows final := by
  intro name old bound
  obtain ⟨new, kept, grown⟩ := before name old bound
  obtain ⟨last, still, further⟩ := after name new kept
  exact ⟨last, still, grown.trans further⟩

theorem set (name : Text) (grown : ∀ old, store.get? name = some old → old.GrowsTo value) :
    store.Grows (store.set name value) := by
  intro other old bound
  rw [get?_set]
  split
  · rename_i same
    exact ⟨value, rfl, grown old (same ▸ bound)⟩
  · exact ⟨old, bound, .refl old⟩

theorem set_of_bound (bound : store.get? name = some first) (grown : first.GrowsTo second) :
    store.Grows (store.set name second) := by
  refine set name ?_
  intro old same
  rw [bound] at same
  exact Option.some.inj same ▸ grown

end Store.Grows

theorem Effect.grows (effect : Effect callable content store replacement left)
    (listless : ¬ callable .vector) (objectless : ¬ callable .object) : store.Grows left := by
  cases effect with
  | part | upper | lower | number | truth | size | missing | read | select | join => exact .refl store
  | bind single _ => exact .set _ fun old bound => .single (single old bound)
  | vector called _ => exact absurd called listless
  | object called => exact absurd called objectless
  | append bound _ => exact .set_of_bound bound (.list (by simp))
  | slot bound _ => exact .set_of_bound bound (.list (by simp))
  | entry bound _ _ => exact .set_of_bound bound (.object (Entries.keys_prefix_write _ _ _))

namespace Scope

/-- The builtin functions apart from those that make lists and objects, beside any functions of the host
that are not registered. -/
def withoutMakers (host : Nat → TagFunction) : Scope :=
  ⟨functionsWith host,
    (Registry.standard.remove Builtin.vector.name.toList).remove Builtin.object.name.toList⟩

variable {host : Nat → TagFunction}

/-- An evaluation lets collections grow, and brings no functions into the store. -/
theorem evaluate_withoutMakers_grows (host : Nat → TagFunction) (free : left.functions = [])
    (draw : Draw) (content : Text) :
    left.Grows ((withoutMakers host).evaluate draw content left).2 ∧
      ((withoutMakers host).evaluate draw content left).2.functions = [] := by
  have only : ((Registry.standard.remove Builtin.vector.name.toList).remove
      Builtin.object.name.toList).Only
        (Builtin.all.filter fun builtin => builtin ≠ .vector ∧ builtin ≠ .object) := by decide
  have effect := only.evaluate_effect (Store.not_holds_function free) host draw content
  exact ⟨effect.grows (by decide) (by decide), effect.written.functions_eq_nil free⟩

theorem run_withoutMakers_grows (budget : Nat) (draws : Draws) (text : Text)
    (free : store.functions = []) :
    store.Grows ((withoutMakers host).run budget draws text store).2 := by
  refine (((withoutMakers host).renders_run budget draws text store).store_invariant
    (fun _ met => store.Grows met ∧ met.functions = []) ?_ ⟨.refl store, free⟩).1
  rintro _ draw content met ⟨grown, met_free⟩
  obtain ⟨further, left_free⟩ := evaluate_withoutMakers_grows host met_free draw content
  exact ⟨grown.trans further, left_free⟩

/-- Without the functions that make collections, no template takes one from a store without functions.
A name of a list stays one of a list, and no item is lost; a name of an object stays one of an object,
and its keys stay in their order, before any new ones. -/
theorem run_withoutMakers_keeps_collections (host : Nat → TagFunction) (budget : Nat) (draws : Draws)
    (text : Text) (free : store.functions = []) :
    let final := ((withoutMakers host).run budget draws text store).2
    (∀ name items, store.get? name = some (.list items) →
      ∃ grown, final.get? name = some (.list grown) ∧ items.length ≤ grown.length) ∧
    (∀ name entries, store.get? name = some (.object entries) →
      ∃ grown, final.get? name = some (.object grown) ∧
        Entries.keys entries <+: Entries.keys grown) := by
  intro final
  have grows : store.Grows final := run_withoutMakers_grows budget draws text free
  constructor
  · intro name items bound
    obtain ⟨new, kept, grown⟩ := grows name _ bound
    cases grown with
    | single single => cases single
    | list longer => exact ⟨_, kept, longer⟩
  · intro name entries bound
    obtain ⟨new, kept, grown⟩ := grows name _ bound
    cases grown with
    | single single => cases single
    | object keys => exact ⟨_, kept, keys⟩

def cabinet : Store :=
  .ofNamed [("all".toList, .list [.text "a".toList, .bool false]),
    ("by".toList, .object [("key".toList, .bool true)])]

/-- Tags that name the collections with payloads that fit and payloads that do not, and with the functions
that are not there. -/
def cabinetTemplate : Text :=
  ("⟨all:9=x⟩⟨all:one=x⟩⟨all:2-1⟩⟨all:⟩⟨by:lost⟩⟨by->x⟩" ++
    "⟨push:by->x⟩⟨vector:all⟩⟨object:by⟩⟨all->by⟩⟨by:new=x⟩").braced

/-- After eleven evaluations the list has no item less, and the object no key less. -/
theorem run_withoutMakers_cabinet :
    cabinet.functions = [] ∧
    cabinet.get? "all".toList = some (.list [.text "a".toList, .bool false]) ∧
    cabinet.get? "by".toList = some (.object [("key".toList, .bool true)]) ∧
    let ran := (withoutMakers fun _ _ _ store => ([], store)).run 11 default cabinetTemplate cabinet
    ran.1 = ⟨"anull".toList, 11, .complete⟩ ∧
    (∃ items, ran.2.get? "all".toList = some (.list items) ∧ 2 ≤ items.length) ∧
    ∃ entries, ran.2.get? "by".toList = some (.object entries) ∧
      ["key".toList] <+: Entries.keys entries := by
  have free : cabinet.functions = [] := by decide
  have listed : cabinet.get? "all".toList = some (.list [.text "a".toList, .bool false]) := rfl
  have keyed : cabinet.get? "by".toList = some (.object [("key".toList, .bool true)]) := rfl
  obtain ⟨lists, objects⟩ := run_withoutMakers_keeps_collections (fun _ _ _ store => ([], store)) 11
    default cabinetTemplate free
  exact ⟨free, listed, keyed, by decide +kernel, lists _ _ listed, objects _ _ keyed⟩

end Scope

end TagWeave
