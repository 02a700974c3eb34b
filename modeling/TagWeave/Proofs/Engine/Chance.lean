import TagWeave.Proofs.Engine.Evaluations
import TagWeave.Proofs.Tag.Calls

/-! What a run leaves to chance. A tag depends on its chance through the function that it calls, and of
the builtin functions only `random` looks at it; so a run in which no tag calls that one is the same
whatever the chances are. -/
namespace TagWeave

namespace Scope

variable {scope : Scope} {budget : Nat} {draws : Draws} {text : Text} {store : Store}

/-- No evaluation of a run calls `random`. -/
def WithoutChance (scope : Scope) (budget : Nat) (draws : Draws) (text : Text) (store : Store) : Prop :=
  ∀ evaluation ∈ scope.evaluations budget draws text store,
    scope.callee? evaluation.1 evaluation.2 ≠ some (.builtin .random)

instance : Decidable (scope.WithoutChance budget draws text store) :=
  inferInstanceAs (Decidable (∀ _ ∈ _, _))

/-- Chances do not matter to a run without calls of `random`, if no other function looks at them. -/
theorem run_of_withoutChance
    (steady : ∀ reference, reference ≠ .builtin .random → ∀ draw later,
      scope.functions reference draw = scope.functions reference later)
    (sure : scope.WithoutChance budget draws text store) (others : Draws) :
    scope.run budget draws text store = scope.run budget others text store := by
  refine (run_eq_of_evaluations ?_).symm
  intro evaluation evaluated n
  refine evaluate_congr rfl ?_
  intro reference called
  apply steady
  rintro rfl
  exact sure evaluation evaluated called

end Scope

/-- Of the builtin functions only `random` looks at its chance. -/
theorem builtinFunctions_steady (reference : FunctionRef) (certain : reference ≠ .builtin .random)
    (draw later : Draw) : builtinFunctions reference draw = builtinFunctions reference later := by
  funext payload store
  cases reference with
  | host number => rfl
  | builtin function =>
    cases function with
    | random => exact absurd rfl certain
    | round | floor | ceil | abs | object | contains | vector | choose | isNaN | push | length
    | upper | lower | trim | join => rfl

end TagWeave
