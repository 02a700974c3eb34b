import TagWeave.Proofs.Engine.OutcomeInvariant

/-! How a run goes on when it is given more budget or more text. A run that stopped for want of
budget is resumed where it stopped; any other run has no use for more. Text behind the template is
not looked at before the template is complete, and what is complete by then is not looked at again. -/
namespace TagWeave

variable {scope : Scope} {budget extra : Nat} {draw : Draw} {draws : Draws}
  {text next before content after : Text} {store left final : Store} {report later : Report}

theorem Scope.turn_append (place : locate text = .tag before content after)
    (turned : scope.turn draw content text store = (next, left)) (rest : Text) :
    scope.turn draw content (text ++ rest) store = (next ++ rest, left) := by
  obtain ⟨replacement, evaluated, rfl⟩ := (turn_eq_iff place).mp turned
  exact (turn_eq_iff (locate_append_tag place rest)).mpr ⟨replacement, evaluated, by simp⟩

/-- A turn behind text without braces. -/
theorem Scope.turn_plain_append {front : Text} (plain : front.Plain)
    (place : locate text = .tag before content after)
    (turned : scope.turn draw content text store = (next, left)) :
    scope.turn draw content (front ++ text) store = (front ++ next, left) := by
  obtain ⟨replacement, evaluated, rfl⟩ := (turn_eq_iff place).mp turned
  exact (turn_eq_iff (locate_plain_append plain place)).mpr ⟨replacement, evaluated, by simp⟩

namespace Scope.Renders

/-- More budget changes nothing for a run that did not spend it all. -/
theorem more_budget (rendered : scope.Renders budget draws text store report final)
    (settled : report.outcome ≠ .budgetExhausted) (extra : Nat) :
    scope.Renders (budget + extra) draws text store report final := by
  induction rendered with
  | finished place => exact .finished place
  | unopened place => exact .unopened place
  | spent _ => exact absurd rfl settled
  | fixed place turned =>
    rw [Nat.add_right_comm]
    exact .fixed place turned
  | turn place turned changed _ ih =>
    rw [Nat.add_right_comm]
    exact .turn place turned changed (ih settled)

/-- A run that spent its budget goes on from its text, its store and the chances it left. -/
theorem resume (rendered : scope.Renders budget draws text store report left)
    (exhausted : report.outcome = .budgetExhausted)
    (resumed : scope.Renders extra (draws.skip budget) report.output left later final) :
    scope.Renders (budget + extra) draws text store (later.after budget) final := by
  induction rendered with
  | finished _ => cases exhausted
  | unopened _ => cases exhausted
  | spent _ => simpa using resumed
  | fixed _ _ => cases exhausted
  | @turn budget _ _ _ _ _ _ _ _ _ _ place turned changed _ ih =>
    have further := ih exhausted (by simpa using resumed)
    have extended := Renders.turn place turned changed further
    rw [Report.after_after, Nat.add_comm 1 budget] at extended
    rw [Nat.add_right_comm]
    exact extended

/-- A run that stopped short of the end of its text stops there whatever follows. -/
theorem append_of_stopped (rendered : scope.Renders budget draws text store report final)
    (stopped : report.outcome ≠ .complete) (rest : Text) :
    scope.Renders budget draws (text ++ rest) store
      { report with output := report.output ++ rest } final := by
  induction rendered with
  | finished _ => exact absurd rfl stopped
  | unopened place => exact .unopened (locate_append_unopened place rest)
  | spent place => exact .spent (locate_append_tag place rest)
  | fixed place turned =>
    exact .fixed (locate_append_tag place rest) (turn_append place turned rest)
  | turn place turned changed _ ih =>
    exact .turn (locate_append_tag place rest) (turn_append place turned rest)
      (by simpa using changed) (ih stopped)

/-- A complete run leaves what follows its text to the rest of the budget. -/
theorem append_of_complete {rest : Text}
    (rendered : scope.Renders budget draws text store report left)
    (complete : report.outcome = .complete)
    (resumed : scope.Renders (budget - report.iterations) (draws.skip report.iterations)
      (report.output ++ rest) left later final) :
    scope.Renders budget draws (text ++ rest) store (later.after report.iterations) final := by
  induction rendered with
  | finished _ => simpa using resumed
  | unopened _ => cases complete
  | spent _ => cases complete
  | fixed _ _ => cases complete
  | @turn budget draws _ _ _ _ _ _ _ _ report place turned changed _ ih =>
    have remaining : budget + 1 - (1 + report.iterations) = budget - report.iterations := by omega
    have chances : draws.skip (1 + report.iterations) = draws.next.skip report.iterations := by
      rw [Draws.next_skip, Nat.add_comm]
    simp only [Report.after_iterations, Report.after_output, remaining, chances] at resumed
    have extended := Renders.turn (locate_append_tag place rest) (turn_append place turned rest)
      (by simpa using changed) (ih complete resumed)
    simpa using extended

theorem plain_append {front : Text} (plain : front.Plain)
    (rendered : scope.Renders budget draws text store report final) :
    scope.Renders budget draws (front ++ text) store
      { report with output := front ++ report.output } final := by
  induction rendered with
  | finished place => exact .finished (locate_plain_append plain place)
  | unopened place => exact .unopened (locate_plain_append plain place)
  | spent place => exact .spent (locate_plain_append plain place)
  | fixed place turned =>
    exact .fixed (locate_plain_append plain place)
      (turn_plain_append plain place turned)
  | turn place turned changed _ ih =>
    exact .turn (locate_plain_append plain place)
      (turn_plain_append plain place turned) (by simpa using changed) ih

end Scope.Renders

/-- Running out of budget loses no work, and a larger budget changes nothing else. -/
theorem Scope.run_add_resumes (scope : Scope) (budget extra : Nat) (draws : Draws) (text : Text)
    (store : Store) :
    scope.run (budget + extra) draws text store =
      let (report, left) := scope.run budget draws text store
      if report.outcome = .budgetExhausted then
        let (later, final) := scope.run extra (draws.skip budget) report.output left
        (later.after budget, final)
      else (report, left) := by
  rcases ran : scope.run budget draws text store with ⟨report, left⟩
  have rendered := renders_iff.mpr ran
  by_cases exhausted : report.outcome = .budgetExhausted
  · have resumed := rendered.resume exhausted
      (scope.renders_run extra (draws.skip budget) report.output left)
    simpa [exhausted] using resumed.run_eq
  · simpa [exhausted] using (rendered.more_budget exhausted extra).run_eq

/-- Templates compose. A run that stops short stops there whatever follows the template; a complete
run whose text has no opening brace leaves the second template to what remains of the budget, the
store it left and the chances it left. -/
theorem Scope.run_append_composes {first second : Text}
    (ran : scope.run budget draws first store = (report, left)) :
    (report.outcome ≠ .complete →
      scope.run budget draws (first ++ second) store =
        ({ report with output := report.output ++ second }, left)) ∧
    (report.outcome = .complete → openBrace ∉ report.output →
      scope.run budget draws (first ++ second) store =
        let (later, final) := scope.run (budget - report.iterations)
          (draws.skip report.iterations) second left
        ({ output := report.output ++ later.output
           iterations := report.iterations + later.iterations
           outcome := later.outcome }, final)) := by
  have rendered := renders_iff.mpr ran
  constructor
  · intro stopped
    exact (rendered.append_of_stopped stopped second).run_eq
  · intro complete unopened
    have plain : Text.Plain report.output :=
      ⟨unopened, locate_eq_finished_iff.mp (rendered.allowed.complete_iff.mp complete)⟩
    have second_rendered := scope.renders_run (budget - report.iterations)
      (draws.skip report.iterations) second left
    exact (rendered.append_of_complete complete (second_rendered.plain_append plain)).run_eq

/-- A tag bound by one template is read by the next, and a brace that closes too early keeps the
next template as it is. -/
theorem Scope.run_append_greeting :
    let greeting := Store.empty.set "greeting".toList (.text "hi".toList)
    Scope.standard.run 3 default
        ("⟨greeting: hi ⟩".braced ++ "⟨greeting⟩, ⟨greeting⟩".braced) .empty =
      (⟨"hi, hi".toList, 3, .complete⟩, greeting) ∧
    Scope.standard.run 3 default ("⟨greeting⟩ ⟩".braced ++ "⟨greeting⟩".braced)
        greeting =
      (⟨"hi ⟩⟨greeting⟩".braced, 1, .unterminated⟩, greeting) := by
  intro greeting
  have bound : Scope.standard.run 3 default "⟨greeting: hi ⟩".braced .empty =
      (⟨[], 1, .complete⟩, greeting) := by rfl
  have stopped : Scope.standard.run 3 default "⟨greeting⟩ ⟩".braced greeting =
      (⟨"hi ⟩".braced, 1, .unterminated⟩, greeting) := by rfl
  constructor
  · rw [(run_append_composes bound).2 rfl (by decide)]
    rfl
  · rw [(run_append_composes stopped).1 (by decide)]
    rfl

end TagWeave
