import TagWeave.Proofs.Engine.Placement

/-! The rules of rendering on whole texts. One turn evaluates the next tag, writes what it gives over
the first place where the tag is written, and compares the new text with the old one. The run that
keeps its place in the text follows exactly these rules. -/
namespace TagWeave

def Scope.standard : Scope := ⟨builtinFunctions, .standard⟩

instance : Inhabited Draw := ⟨⟨⟨0, by decide⟩⟩⟩

/-- The text and the store after one evaluation of the tag `content`. -/
def Scope.turn (scope : Scope) (draw : Draw) (content text : Text) (store : Store) : Text × Store :=
  let (replacement, left) := scope.evaluate draw content store
  (Text.replaceFirst (bracketed content) replacement text, left)

def Draws.skip (draws : Draws) (count : Nat) : Draws := fun n => draws (count + n)

@[simp] theorem Draws.skip_zero (draws : Draws) : draws.skip 0 = draws := by
  funext n
  simp [skip]

@[simp] theorem Draws.next_skip (draws : Draws) (count : Nat) :
    draws.next.skip count = draws.skip (count + 1) := by
  funext n
  simp [skip, next, Nat.add_right_comm]

@[simp] theorem Draws.skip_next (draws : Draws) (count : Nat) :
    (draws.skip count).next = draws.skip (count + 1) := by
  funext n
  simp [skip, next, Nat.add_assoc, Nat.add_comm 1 n]

@[simp] theorem Draws.skip_skip (draws : Draws) (first second : Nat) :
    (draws.skip first).skip second = draws.skip (first + second) := by
  funext n
  simp [skip, Nat.add_assoc]

@[simp] theorem Report.after_output (report : Report) (count : Nat) :
    (report.after count).output = report.output := rfl

@[simp] theorem Report.after_iterations (report : Report) (count : Nat) :
    (report.after count).iterations = count + report.iterations := rfl

@[simp] theorem Report.after_outcome (report : Report) (count : Nat) :
    (report.after count).outcome = report.outcome := rfl

@[simp] theorem Report.after_zero (report : Report) : report.after 0 = report := by
  simp [after]

@[simp] theorem Report.after_after (report : Report) (first second : Nat) :
    (report.after second).after first = report.after (first + second) := by
  simp [after, Nat.add_assoc]

/-- The rules of rendering, in the order in which they are asked: no brace closes; a brace closes
before one opens; no evaluation is left; the turn leaves the text as it is; the turn changes it. -/
inductive Scope.Renders (scope : Scope) :
    (budget : Nat) → Draws → Text → Store → Report → Store → Prop where
  | finished {budget : Nat} {draws : Draws} {text : Text} {store : Store}
      (place : locate text = .finished) :
      Renders scope budget draws text store ⟨text, 0, .complete⟩ store
  | unopened {budget : Nat} {draws : Draws} {text : Text} {store : Store}
      (place : locate text = .unopened) :
      Renders scope budget draws text store ⟨text, 0, .unterminated⟩ store
  | spent {draws : Draws} {text before content after : Text} {store : Store}
      (place : locate text = .tag before content after) :
      Renders scope 0 draws text store ⟨text, 0, .budgetExhausted⟩ store
  | fixed {budget : Nat} {draws : Draws} {text before content after : Text} {store left : Store}
      (place : locate text = .tag before content after)
      (turned : scope.turn (draws 0) content text store = (text, left)) :
      Renders scope (budget + 1) draws text store ⟨text, 1, .fixedPoint⟩ left
  | turn {budget : Nat} {draws : Draws} {text before content after next : Text}
      {store left final : Store} {report : Report}
      (place : locate text = .tag before content after)
      (turned : scope.turn (draws 0) content text store = (next, left)) (changed : next ≠ text)
      (rest : Renders scope budget draws.next next left report final) :
      Renders scope (budget + 1) draws text store (report.after 1) final

variable {scope : Scope} {budget : Nat} {draw : Draw} {draws : Draws}
  {text next before content after : Text} {store left final : Store} {report : Report}

/-- A turn writes over the tag that was evaluated and nothing else. -/
theorem Scope.turn_eq_iff (place : locate text = .tag before content after) :
    scope.turn draw content text store = (next, left) ↔
      ∃ replacement, scope.evaluate draw content store = (replacement, left) ∧
        next = before ++ replacement ++ after := by
  simp only [turn, replaceFirst_of_locate place, Prod.mk.injEq]
  constructor
  · rintro ⟨rfl, rfl⟩
    exact ⟨_, rfl, rfl⟩
  · rintro ⟨replacement, evaluated, rfl⟩
    simp [evaluated]

/-- A turn leaves the text as it is exactly if the tag evaluates to itself. -/
theorem Scope.turn_eq_self_iff (place : locate text = .tag before content after) :
    scope.turn draw content text store = (text, left) ↔
      scope.evaluate draw content store = (bracketed content, left) := by
  simp only [turn, Prod.mk.injEq, replaceFirst_eq_self_iff place]
  constructor
  · rintro ⟨same, rfl⟩
    exact Prod.ext same rfl
  · intro evaluated
    simp [evaluated]

theorem Scope.run_succ_of_tag (place : locate text = .tag before content after) :
    scope.run (budget + 1) draws text store =
      let (next, left) := scope.turn (draws 0) content text store
      if next = text then (⟨text, 1, .fixedPoint⟩, left)
      else
        let (report, final) := scope.run budget draws.next next left
        (report.after 1, final) := by
  have same := replaceFirst_eq_self_iff place (scope.evaluate (draws 0) content store).1
  rw [replaceFirst_of_locate place] at same
  simp only [run_succ, place, turn, replaceFirst_of_locate place, same]

theorem Scope.renders_run (scope : Scope) (budget : Nat) (draws : Draws) (text : Text)
    (store : Store) :
    scope.Renders budget draws text store (scope.run budget draws text store).1
      (scope.run budget draws text store).2 := by
  induction budget generalizing draws text store with
  | zero =>
    rw [run_zero]
    cases place : locate text with
    | finished => exact .finished place
    | unopened => exact .unopened place
    | tag before content after => exact .spent place
  | succ budget ih =>
    cases place : locate text with
    | finished =>
      simp only [run_succ, place]
      exact .finished place
    | unopened =>
      simp only [run_succ, place]
      exact .unopened place
    | tag before content after =>
      rw [run_succ_of_tag place]
      by_cases same : (scope.turn (draws 0) content text store).1 = text
      · simp only [same, ↓reduceIte]
        exact .fixed place (Prod.ext same rfl)
      · simp only [same, ↓reduceIte]
        exact .turn place rfl same (ih draws.next _ _)

theorem Scope.Renders.run_eq (rendered : scope.Renders budget draws text store report final) :
    scope.run budget draws text store = (report, final) := by
  induction rendered with
  | @finished budget _ _ _ place => cases budget <;> simp [run_zero, run_succ, place]
  | @unopened budget _ _ _ place => cases budget <;> simp [run_zero, run_succ, place]
  | spent place => simp [run_zero, place]
  | fixed place turned => simp [run_succ_of_tag place, turned]
  | turn place turned changed rest ih => simp [run_succ_of_tag place, turned, changed, ih]

/-- A run follows the rules, and whatever follows them is the run. -/
theorem Scope.renders_iff :
    scope.Renders budget draws text store report final ↔
      scope.run budget draws text store = (report, final) := by
  constructor
  · exact Renders.run_eq
  · intro ran
    have rendered := scope.renders_run budget draws text store
    rwa [ran] at rendered

end TagWeave
