import TagWeave.Proofs.Engine.RunSemantics

/-! The evaluations of a run. Only they change the store, so what they keep holds of every store that
the run comes to; and a run depends on its scope and its chances only through them. -/
namespace TagWeave

namespace Scope

/-- The evaluations of a run: the content of each tag, and the store in which it is evaluated. -/
def evaluations (scope : Scope) : (budget : Nat) → Draws → Text → Store → List (Text × Store)
  | 0, _, _, _ => []
  | budget + 1, draws, text, store =>
    match locate text with
    | .finished | .unopened => []
    | .tag _ content _ =>
      let (next, left) := scope.turn (draws 0) content text store
      (content, store) :: if next = text then [] else evaluations scope budget draws.next next left

variable {scope other : Scope} {budget : Nat} {draw : Draw} {draws others : Draws}
  {text next content : Text} {store left final : Store} {report : Report}

theorem store_of_turn (turned : scope.turn draw content text store = (next, left)) :
    (scope.evaluate draw content store).2 = left := congrArg Prod.snd turned

/-- What each evaluation takes from one count to the next holds of the store that a run leaves, at the
count of its evaluations. -/
theorem Renders.store_invariant (holds : Nat → Store → Prop)
    (step : ∀ count draw content store, holds count store →
      holds (count + 1) (scope.evaluate draw content store).2)
    (rendered : scope.Renders budget draws text store report final) (start : holds 0 store) :
    holds report.iterations final := by
  induction rendered generalizing holds with
  | finished _ => exact start
  | unopened _ => exact start
  | spent _ => exact start
  | fixed _ turned =>
    obtain rfl := store_of_turn turned
    exact step 0 _ _ _ start
  | turn _ turned _ _ ih =>
    obtain rfl := store_of_turn turned
    -- The rest of the run counts its evaluations from one.
    rw [Report.after_iterations, Nat.add_comm]
    exact ih (fun count => holds (count + 1)) (fun count => step (count + 1)) (step 0 _ _ _ start)

/-- What evaluations keep holds of every store in which a run evaluates a tag. -/
theorem evaluations_invariant (holds : Store → Prop)
    (step : ∀ draw content store, holds store → holds (scope.evaluate draw content store).2)
    (start : holds store) :
    ∀ evaluation ∈ scope.evaluations budget draws text store, holds evaluation.2 := by
  induction budget generalizing draws text store with
  | zero => simp [evaluations]
  | succ budget ih =>
    cases place : locate text with
    | finished => simp [evaluations, place]
    | unopened => simp [evaluations, place]
    | tag before content after =>
      simp only [evaluations, place, List.forall_mem_cons]
      refine ⟨start, ?_⟩
      split
      · simp
      · exact ih (step _ _ _ start)

/-- Runs with the same evaluations are the same. -/
theorem run_eq_of_evaluations
    (same : ∀ evaluation ∈ scope.evaluations budget draws text store, ∀ n,
      other.evaluate (others n) evaluation.1 evaluation.2 =
        scope.evaluate (draws n) evaluation.1 evaluation.2) :
    other.run budget others text store = scope.run budget draws text store := by
  induction budget generalizing draws others text store with
  | zero => rw [run_zero, run_zero]
  | succ budget ih =>
    cases place : locate text with
    | finished => simp only [run_succ, place]
    | unopened => simp only [run_succ, place]
    | tag before content after =>
      simp only [evaluations, place, List.forall_mem_cons] at same
      obtain ⟨here, further⟩ := same
      have turned : other.turn (others 0) content text store =
          scope.turn (draws 0) content text store := by
        simp only [turn, here 0]
      rw [run_succ_of_tag place, run_succ_of_tag place, turned]
      by_cases still : (scope.turn (draws 0) content text store).1 = text
      · simp only [if_pos still]
      · rw [if_neg still] at further
        have rest : other.run budget others.next _ _ = scope.run budget draws.next _ _ :=
          ih fun evaluation evaluated n => further evaluation evaluated (n + 1)
        simp only [if_neg still, rest]

end Scope

end TagWeave
