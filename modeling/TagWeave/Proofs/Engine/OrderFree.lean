import TagWeave.Proofs.Engine.Chance
import TagWeave.Proofs.Tag.OrderFree

/-! Rendering does not see in which order a store was filled. One turn gives the same text in stores
that are alike and leaves them alike, so two runs from such stores go the same way to their ends. -/
namespace TagWeave

namespace Scope

variable {scope : Scope} {budget : Nat} {draw : Draw} {draws : Draws} {text content : Text}
  {store other : Store}

section

variable (ignore : ∀ reference, (scope.functions reference).IgnoresOrder)
include ignore

theorem turn_alike (alike : store.Alike other) (draw : Draw) (content text : Text) :
    Agree (scope.turn draw content text store) (scope.turn draw content text other) := by
  obtain ⟨same, left_alike⟩ := evaluate_alike ignore alike draw content
  exact ⟨congrArg (Text.replaceFirst (bracketed content) · text) same, left_alike⟩

/-- Runs from stores that are alike give one report and leave stores that are alike. -/
theorem run_alike (alike : store.Alike other) (budget : Nat) (draws : Draws) (text : Text) :
    (scope.run budget draws text store).1 = (scope.run budget draws text other).1 ∧
      (scope.run budget draws text store).2.Alike (scope.run budget draws text other).2 := by
  induction budget generalizing draws text store other with
  | zero =>
    rw [run_zero, run_zero]
    cases locate text with
    | finished | unopened | tag _ _ _ => exact ⟨rfl, alike⟩
  | succ budget ih =>
    cases place : locate text with
    | finished | unopened =>
      simp only [run_succ, place]
      exact ⟨trivial, alike⟩
    | tag before content after =>
      obtain ⟨same, left_alike⟩ := turn_alike ignore alike (draws 0) content text
      rw [run_succ_of_tag place, run_succ_of_tag place]
      dsimp only
      rw [← same]
      by_cases fixed : (scope.turn (draws 0) content text store).1 = text
      · rw [if_pos fixed, if_pos fixed]
        exact ⟨rfl, left_alike⟩
      · rw [if_neg fixed, if_neg fixed]
        obtain ⟨reports, finals⟩ := ih left_alike draws.next _
        exact ⟨congrArg (fun report => report.after 1) reports, finals⟩

end

/-- The order of insertion is never seen. Under the builtin functions, two stores that bind the same
names to the same values up to the order of entries, at any depth, give every text the same report at
every budget, and are left alike again, as long as the run does not call `random`; then neither needs
the chances of the other. -/
theorem run_ignores_insertion_order (alike : store.Alike other) (budget : Nat) (draws later : Draws)
    (text : Text) (sure : standard.WithoutChance budget draws text store) :
    (standard.run budget draws text store).1 = (standard.run budget later text other).1 ∧
      (standard.run budget draws text store).2.Alike (standard.run budget later text other).2 := by
  rw [run_of_withoutChance builtinFunctions_steady sure later]
  exact run_alike builtinFunctions_ignoreOrder alike budget later text

/-- The leader of a team with the entries in another order, and the names too: the leader is pushed
onto the team and then given a role. -/
theorem run_ignores_order_of_team :
    let lead : Value := .object [("name".toList, .text "Ada".toList), ("id".toList, .text ['7'])]
    let twin : Value := .object [("id".toList, .text ['7']), ("name".toList, .text "Ada".toList)]
    let store : Store := ⟨[("lead".toList, lead), ("team".toList, .list [lead])], by decide⟩
    let other : Store := ⟨[("team".toList, .list [twin]), ("lead".toList, twin)], by decide⟩
    let text := ("⟨team->lead⟩⟨lead:role=chief⟩⟨lead:name⟩ is " ++
      "⟨lead:role⟩ of ⟨length:team⟩").braced
    (standard.run 9 (fun _ => default) text store).1 =
        (standard.run 9 (fun _ => default) text other).1 ∧
      (standard.run 9 (fun _ => default) text store).2.Alike
        (standard.run 9 (fun _ => default) text other).2 := by
  intro lead twin store other text
  have lead_alike : lead.Alike twin := by
    apply Value.alike_object_of_members (by decide) (by decide) ?_ (by decide)
    simp only [List.forall_mem_cons, List.not_mem_nil, false_implies, implies_true, and_true]
    exact ⟨⟨_, by simp, .text _⟩, ⟨_, by simp, .text _⟩⟩
  have team_alike : (Value.list [lead]).Alike (.list [twin]) :=
    Value.alike_list_iff.mpr (.cons lead_alike .nil)
  have alike : store.Alike other := by
    apply Value.alike_object_of_members (by decide) (by decide) ?_ (by decide)
    simp only [store, List.forall_mem_cons, List.not_mem_nil, false_implies, implies_true, and_true]
    exact ⟨⟨_, by simp [other], lead_alike⟩, ⟨_, by simp [other], team_alike⟩⟩
  exact run_ignores_insertion_order alike 9 _ _ text (by decide +kernel)

end Scope

end TagWeave
