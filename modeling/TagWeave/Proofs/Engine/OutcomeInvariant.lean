import TagWeave.Proofs.Engine.RunSemantics

/-! What a report says of its own text. Each outcome belongs to one kind of next tag in the output,
so the outcome can be read off the output, except that a tag may remain for two reasons: the budget
was spent, or the tag evaluated to itself. -/
namespace TagWeave

/-- The outcomes of a run that stops where the next tag of its text is at some location. -/
def Location.Allows : Location → Outcome → Prop
  | .finished, outcome => outcome = .complete
  | .unopened, outcome => outcome = .unterminated
  | .tag _ _ _, outcome => outcome = .budgetExhausted ∨ outcome = .fixedPoint

section

variable {location : Location} {outcome : Outcome}

theorem Location.Allows.complete_iff (allowed : location.Allows outcome) :
    outcome = .complete ↔ location = .finished := by
  cases location with
  | finished => exact iff_of_true allowed rfl
  | unopened => simp [show outcome = .unterminated from allowed]
  | tag before content after => rcases allowed with rfl | rfl <;> simp

theorem Location.Allows.unterminated_iff (allowed : location.Allows outcome) :
    outcome = .unterminated ↔ location = .unopened := by
  cases location with
  | finished => simp [show outcome = .complete from allowed]
  | unopened => exact iff_of_true allowed rfl
  | tag before content after => rcases allowed with rfl | rfl <;> simp

theorem Location.Allows.tag_iff (allowed : location.Allows outcome) :
    outcome = .budgetExhausted ∨ outcome = .fixedPoint ↔
      ∃ before content after, location = .tag before content after := by
  cases location with
  | finished => simp [show outcome = .complete from allowed]
  | unopened => simp [show outcome = .unterminated from allowed]
  | tag before content after => exact iff_of_true allowed ⟨before, content, after, rfl⟩

end

variable {scope : Scope} {budget : Nat} {draws : Draws} {text : Text} {store final : Store}
  {report : Report}

namespace Scope.Renders

theorem allowed (rendered : scope.Renders budget draws text store report final) :
    (locate report.output).Allows report.outcome := by
  induction rendered with
  | finished place =>
    rw [place]
    rfl
  | unopened place =>
    rw [place]
    rfl
  | spent place =>
    rw [place]
    exact .inl rfl
  | fixed place _ =>
    rw [place]
    exact .inr rfl
  | turn _ _ _ _ ih => exact ih

theorem iterations_le (rendered : scope.Renders budget draws text store report final) :
    report.iterations ≤ budget := by
  induction rendered with
  | finished _ => exact Nat.zero_le _
  | unopened _ => exact Nat.zero_le _
  | spent _ => exact Nat.le_refl 0
  | fixed _ _ => exact Nat.le_add_left 1 _
  | turn _ _ _ _ ih =>
    rw [Report.after_iterations]
    omega

theorem iterations_of_exhausted (rendered : scope.Renders budget draws text store report final)
    (exhausted : report.outcome = .budgetExhausted) : report.iterations = budget := by
  induction rendered with
  | finished _ => cases exhausted
  | unopened _ => cases exhausted
  | spent _ => rfl
  | fixed _ _ => cases exhausted
  | turn _ _ _ _ ih =>
    have later := ih exhausted
    rw [Report.after_iterations]
    omega

/-- A run that ends at a fixed point has reached its output with one evaluation less. The last one
evaluates the tag that stands next in the output, and gives that tag. -/
theorem last_of_fixedPoint (rendered : scope.Renders budget draws text store report final)
    (fixed : report.outcome = .fixedPoint) :
    ∃ count before content after earlier,
      report.iterations = count + 1 ∧
      scope.Renders count draws text store ⟨report.output, count, .budgetExhausted⟩ earlier ∧
      locate report.output = .tag before content after ∧
      scope.evaluate (draws count) content earlier = (bracketed content, final) := by
  induction rendered with
  | finished _ => cases fixed
  | unopened _ => cases fixed
  | spent _ => cases fixed
  | @fixed _ _ _ before content after store _ place turned =>
    exact ⟨0, before, content, after, store, rfl, .spent place, place,
      (turn_eq_self_iff place).mp turned⟩
  | turn place turned changed _ ih =>
    obtain ⟨count, before, content, after, earlier, counted, reached, standing, evaluated⟩ :=
      ih fixed
    refine ⟨count + 1, before, content, after, earlier, ?_, ?_, standing, evaluated⟩
    · rw [Report.after_iterations, counted, Nat.add_comm]
    · have extended := Renders.turn place turned changed reached
      simpa only [Report.after, Nat.add_comm] using extended

end Scope.Renders

/-- The outcome is what the output says. A run stays within its budget; it is complete exactly if no
brace of the output closes, and unterminated exactly if one closes before any opens. Otherwise a
tag remains: then the whole budget was spent, or the last evaluation was of that tag, with the text
as it is now, and gave the tag itself. Without a tag the output renders to itself at once. -/
theorem Scope.run_report_exact (ran : scope.run budget draws text store = (report, final)) :
    report.iterations ≤ budget ∧
    (report.outcome = .complete ↔ closeBrace ∉ report.output) ∧
    (report.outcome = .unterminated ↔
      closeBrace ∈ report.output ∧ openBrace ∉ Text.upTo closeBrace report.output) ∧
    (report.outcome = .budgetExhausted ∨ report.outcome = .fixedPoint ↔
      closeBrace ∈ report.output ∧ openBrace ∈ Text.upTo closeBrace report.output) ∧
    (report.outcome = .budgetExhausted → report.iterations = budget) ∧
    (report.outcome = .fixedPoint →
      1 ≤ report.iterations ∧
      ∃ before content after earlier,
        scope.run (report.iterations - 1) draws text store =
          (⟨report.output, report.iterations - 1, .budgetExhausted⟩, earlier) ∧
        locate report.output = .tag before content after ∧
        scope.evaluate (draws (report.iterations - 1)) content earlier =
          (bracketed content, final)) ∧
    (report.outcome = .complete ∨ report.outcome = .unterminated →
      ∀ (other : Scope) (budget : Nat) (draws : Draws) (store : Store),
        other.run budget draws report.output store =
          (⟨report.output, 0, report.outcome⟩, store)) := by
  have rendered := renders_iff.mpr ran
  have allowed := rendered.allowed
  refine ⟨rendered.iterations_le, ?_, ?_, ?_, rendered.iterations_of_exhausted, ?_, ?_⟩
  · exact allowed.complete_iff.trans locate_eq_finished_iff
  · exact allowed.unterminated_iff.trans locate_eq_unopened_iff_upTo
  · exact allowed.tag_iff.trans exists_locate_eq_tag_iff
  · intro fixed
    obtain ⟨count, before, content, after, earlier, counted, reached, place, evaluated⟩ :=
      rendered.last_of_fixedPoint fixed
    rw [counted, Nat.add_sub_cancel]
    exact ⟨Nat.le_add_left 1 count, before, content, after, earlier, reached.run_eq, place,
      evaluated⟩
  · rintro (complete | unterminated) other budget draws store
    · rw [complete]
      exact (Renders.finished (allowed.complete_iff.mp complete)).run_eq
    · rw [unterminated]
      exact (Renders.unopened (allowed.unterminated_iff.mp unterminated)).run_eq

/-- A tag that stands for itself is found out at its first evaluation. -/
theorem Scope.run_report_self :
    let store := Store.ofNamed [("a".toList, .text "x".toList),
      ("self".toList, .text "⟨self⟩".braced)]
    Scope.standard.run 5 default "⟨a⟩⟨self⟩".braced store =
      (⟨"x⟨self⟩".braced, 2, .fixedPoint⟩, store) ∧
    ∃ before content after earlier,
      Scope.standard.run 1 default "⟨a⟩⟨self⟩".braced store =
        (⟨"x⟨self⟩".braced, 1, .budgetExhausted⟩, earlier) ∧
      locate "x⟨self⟩".braced = .tag before content after ∧
      Scope.standard.evaluate default content earlier = (bracketed content, store) := by
  intro store
  have ran : Scope.standard.run 5 default "⟨a⟩⟨self⟩".braced store =
      (⟨"x⟨self⟩".braced, 2, .fixedPoint⟩, store) := by rfl
  obtain ⟨-, -, -, -, -, fixed, -⟩ := run_report_exact ran
  exact ⟨ran, (fixed rfl).2⟩

end TagWeave
