import TagWeave.Proofs.Engine.Evaluations
import TagWeave.Proofs.Entries.Sorted
import TagWeave.Proofs.Tag.Calls
import TagWeave.Proofs.Tag.Writes

/-! Bound names shadow registered functions. A name is looked up in the store first, wherever a tag uses
it; so as long as no function takes a name out of the store, a run never sees what is registered under
the names that were bound from the start. -/
namespace TagWeave

/-- A function that takes no name out of a store. -/
def KeepsKeys (function : TagFunction) : Prop :=
  ∀ draw payload store, store.keys ⊆ (function draw payload store).2.keys

/-- The functions that runs from a store can come to call: those registered under names that the store
leaves free, those that it holds at any depth, and those that such functions leave in stores that
held no others. -/
inductive Scope.Involves (scope : Scope) (start : Store) : FunctionRef → Prop where
  | registered {name : Text} {reference : FunctionRef} (free : start.get? name = none)
      (registered : scope.registry.get? name = some reference) : Involves scope start reference
  | held {reference : FunctionRef} (held : reference ∈ start.functions) :
      Involves scope start reference
  | stored {caller reference : FunctionRef} {draw : Draw} {payload : Text} {store : Store}
      (called : Involves scope start caller)
      (known : ∀ other ∈ store.functions, Involves scope start other)
      (left : reference ∈ (scope.functions caller draw payload store).2.functions) :
      Involves scope start reference

/-- The stores that runs from a store can come to: its names are bound still, and no functions are held
but those that such runs involve. -/
structure Scope.Follows (scope : Scope) (start met : Store) : Prop where
  keys : start.keys ⊆ met.keys
  known : ∀ reference ∈ met.functions, scope.Involves start reference

variable {scope : Scope} {start met : Store} {reference : FunctionRef}

namespace Scope.Follows

theorem refl (scope : Scope) (store : Store) : scope.Follows store store :=
  ⟨List.Subset.refl _, fun _ held => .held held⟩

theorem free {name : Text} (follows : scope.Follows start met) (free : met.get? name = none) :
    start.get? name = none := by
  unfold Store.get? at free ⊢
  rw [Entries.find?_eq_none_iff] at free ⊢
  exact fun bound => free (follows.keys bound)

/-- Registries that agree on the names that are free at the start give all names the same meanings. -/
theorem resolve?_eq {other : Registry} (follows : scope.Follows start met)
    (agree : ∀ name, start.get? name = none → scope.registry.get? name = other.get? name) :
    resolve? ⟨scope.functions, other⟩ met = scope.resolve? met := by
  funext name
  unfold resolve?
  cases bound : met.get? name with
  | some value => rfl
  | none => rw [agree name (follows.free bound)]

theorem involves (follows : scope.Follows start met) (reached : scope.Reaches met reference) :
    scope.Involves start reference := by
  rcases reached with ⟨name, free, registered⟩ | held
  · exact .registered (follows.free free) registered
  · exact follows.known reference held.mem_functions

/-- Evaluations lead to no other stores, if no function that is involved removes names. -/
theorem evaluate (follows : scope.Follows start met)
    (keeps : ∀ reference, scope.Involves start reference → KeepsKeys (scope.functions reference))
    (draw : Draw) (content : Text) : scope.Follows start (scope.evaluate draw content met).2 := by
  cases called : scope.callee? content met with
  | none =>
    have effect : Effect (fun _ => False) content met _ _ := evaluate_effect_of_silent called draw
    refine ⟨List.Subset.trans follows.keys effect.written.keys_kept.subset, ?_⟩
    intro reference held
    exact follows.known reference (effect.written.functions_subset held)
  | some reference =>
    -- Nothing is known of what the function does but that it is involved.
    obtain ⟨reached, payload, same⟩ := evaluate_of_call called draw
    have involved := follows.involves reached
    rw [same]
    have kept := keeps reference involved draw payload met
    refine ⟨List.Subset.trans follows.keys kept, ?_⟩
    intro other held
    exact .stored involved follows.known held

end Scope.Follows

namespace Scope

/-- What is registered under bound names does not matter. Two registries that agree on all names that a
store leaves free give the same report and leave the same store, whatever the template and the budget,
if none of the functions involved removes names. -/
theorem run_ignores_shadowed (functions : Functions) (first second : Registry) (store : Store)
    (agree : ∀ name, store.get? name = none → first.get? name = second.get? name)
    (keeps : ∀ reference, Involves ⟨functions, first⟩ store reference →
      KeepsKeys (functions reference))
    (budget : Nat) (draws : Draws) (text : Text) :
    Scope.run ⟨functions, first⟩ budget draws text store =
      Scope.run ⟨functions, second⟩ budget draws text store := by
  symm
  refine run_eq_of_evaluations ?_
  intro evaluation evaluated n
  have follows : Follows ⟨functions, first⟩ store evaluation.2 := by
    refine evaluations_invariant (Follows ⟨functions, first⟩ store) ?_ (.refl _ store) evaluation
      evaluated
    intro draw content met follows
    exact follows.evaluate keeps draw content
  exact evaluate_congr (follows.resolve?_eq agree) fun _ _ => rfl

/-- Functions of a host: the first takes the name that it is given out of the store, and the others bind
that name to a function. -/
def borrowing : Nat → TagFunction
  | 0, _, payload, store => ([], store.delete (Text.trim payload))
  | _ + 1, _, payload, store =>
    ([], store.set (Text.trim payload) (.function (.builtin .upper)))

/-- A store that binds the name of a builtin function to a text, and another name to a function. -/
def lending : Store :=
  .ofNamed [("upper".toList, .text "low".toList), ("lend".toList, .function (.host 1))]

/-- Runs with the builtin functions and what is lent never come to the function that removes names. -/
theorem ne_of_involves_lending
    (involved : Involves ⟨functionsWith borrowing, .standard⟩ lending reference) :
    reference ≠ .host 0 := by
  induction involved with
  | registered _ registered =>
    have only : Registry.standard.Only Builtin.all := by decide
    obtain ⟨builtin, -, rfl⟩ := List.mem_map.mp (only _ (Entries.mem_of_find? registered))
    intro same
    cases same
  | held held =>
    have listed : lending.functions = [.host 1] := by decide
    rw [listed, List.mem_singleton] at held
    rw [held]
    decide
  | @stored caller reference draw payload store _ _ left not_first others =>
    -- Builtin functions pass on what the store holds, and those that lend bring in `upper`.
    cases caller with
    | builtin builtin =>
      exact others reference ((builtin.call_written draw payload store).functions_subset left)
    | host number =>
      cases number with
      | zero => exact absurd rfl not_first
      | succ number =>
        have known : (store.set (Text.trim payload) (.function (.builtin .upper))).functions ⊆
            .builtin .upper :: store.functions :=
          Value.functions_write_subset (List.subset_cons_self _ _) (by simp [Value.functions])
        rcases List.mem_cons.mp (known left) with rfl | held
        · intro same
          cases same
        · exact others reference held

theorem keepsKeys_of_ne (other : reference ≠ .host 0) :
    KeepsKeys (functionsWith borrowing reference) := by
  intro draw payload store
  cases reference with
  | builtin builtin => exact (builtin.call_written draw payload store).keys_kept.subset
  | host number =>
    cases number with
    | zero => exact absurd rfl other
    | succ number => exact (Entries.keys_prefix_write _ _ store.entries).subset

/-- Under one registry `upper` is builtin, under the other it removes names; but the store binds it. -/
theorem run_ignores_shadowed_upper :
    let removing := Registry.standard.add "upper".toList (.host 0)
    let template : Text :=
      "⟨upper:a⟩⟨lend:loud⟩⟨loud(hi)⟩⟨upper⟩".braced
    removing.get? "upper".toList ≠ Registry.standard.get? "upper".toList ∧
    ¬ KeepsKeys (functionsWith borrowing (.host 0)) ∧
    (∀ name, lending.get? name = none →
      Registry.standard.get? name = removing.get? name) ∧
    (∀ reference, Involves ⟨functionsWith borrowing, .standard⟩ lending reference →
      KeepsKeys (functionsWith borrowing reference)) ∧
    (Scope.run ⟨functionsWith borrowing, removing⟩ 9 default template lending).1 =
      ⟨"(HI)a".toList, 4, .complete⟩ ∧
    Scope.run ⟨functionsWith borrowing, .standard⟩ 9 default template lending =
      Scope.run ⟨functionsWith borrowing, removing⟩ 9 default template lending := by
  intro removing template
  have agree : ∀ name, lending.get? name = none →
      Registry.standard.get? name = removing.get? name := by
    intro name free
    have bound : lending.get? "upper".toList = some (.text "low".toList) := rfl
    have apart : "upper".toList ≠ name := by
      rintro rfl
      rw [bound] at free
      cases free
    exact ((Entries.find?_write _ _ _ _).trans (if_neg apart)).symm
  have keeps : ∀ reference, Involves ⟨functionsWith borrowing, .standard⟩ lending reference →
      KeepsKeys (functionsWith borrowing reference) :=
    fun _ involved => keepsKeys_of_ne (ne_of_involves_lending involved)
  refine ⟨by decide, ?_, agree, keeps, by decide +kernel,
    run_ignores_shadowed _ _ _ lending agree keeps 9 default template⟩
  intro kept
  have removed := kept default "lend".toList lending
  revert removed
  decide

end Scope

end TagWeave
