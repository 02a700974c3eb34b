import TagWeave.Tag.Evaluation

/-! Rendering replaces one tag after the other, always the one that closes first and opens last
before that, so nested tags are replaced from the inside and from left to right. What stands before
a tag closes no brace, so the search for the next one goes on from there; it finds what a search
from the beginning of the text would. -/
namespace TagWeave

inductive Location where
  /-- No brace closes. -/
  | finished
  /-- A brace closes before one opens. -/
  | unopened
  | tag (before content after : Text)
  deriving DecidableEq, Repr

def locate (text : Text) : Location :=
  match Text.cutAt closeBrace text with
  | none => .finished
  | some (front, after) =>
    match Text.cutAtLast openBrace front with
    | none => .unopened
    | some (before, content) => .tag before content after

/-- The next tag of a text that was read up to some place. What was read is given backwards, the
nearest character first, and so is what stands before the tag. -/
def locateFrom (behind : Text) : (ahead : Text) → Location
  | [] => .finished
  | c :: ahead =>
    if c = closeBrace then
      match Text.cutAt openBrace behind with
      | none => .unopened
      | some (content, before) => .tag before content.reverse ahead
    else locateFrom (c :: behind) ahead

def Location.turned : Location → Location
  | .tag before content after => .tag before.reverse content after
  | location => location

def bracketed (content : Text) : Text := openBrace :: content ++ [closeBrace]

inductive Outcome where
  | complete
  | unterminated
  /-- A tag was replaced by itself. -/
  | fixedPoint
  | budgetExhausted
  deriving DecidableEq, Repr

def Outcome.all : List Outcome := [.complete, .unterminated, .fixedPoint, .budgetExhausted]

def Outcome.name : Outcome → String
  | .complete => "complete"
  | .unterminated => "unterminated"
  | .fixedPoint => "fixed_point"
  | .budgetExhausted => "budget_exhausted"

structure Report where
  output : Text
  iterations : Nat
  outcome : Outcome
  deriving DecidableEq, Repr

def Report.after (evaluations : Nat) (report : Report) : Report :=
  { report with iterations := evaluations + report.iterations }

/-- The chances of the evaluations to come. -/
abbrev Draws := Nat → Draw

def Draws.next (draws : Draws) : Draws := fun n => draws (n + 1)

def defaultBudget : Nat := 100

/-- Render a text that was read up to some place, when `done` tags were evaluated before. -/
def Scope.runFrom (scope : Scope) (draws : Draws) :
    (budget done : Nat) → (behind ahead : Text) → Store → Report × Store
  | 0, done, behind, ahead, store =>
    match locateFrom behind ahead with
    | .finished => (⟨behind.reverse ++ ahead, done, .complete⟩, store)
    | .unopened => (⟨behind.reverse ++ ahead, done, .unterminated⟩, store)
    | .tag _ _ _ => (⟨behind.reverse ++ ahead, done, .budgetExhausted⟩, store)
  | budget + 1, done, behind, ahead, store =>
    match locateFrom behind ahead with
    | .finished => (⟨behind.reverse ++ ahead, done, .complete⟩, store)
    | .unopened => (⟨behind.reverse ++ ahead, done, .unterminated⟩, store)
    | .tag before content after =>
      let (replacement, store) := scope.evaluate (draws done) content store
      if replacement = bracketed content then
        (⟨behind.reverse ++ ahead, done + 1, .fixedPoint⟩, store)
      else scope.runFrom draws budget (done + 1) before (replacement ++ after) store

/-- Render a text with at most `budget` evaluations. -/
def Scope.run (scope : Scope) (budget : Nat) (draws : Draws) (text : Text) (store : Store) :
    Report × Store :=
  scope.runFrom draws budget 0 [] text store

theorem locateFrom_append (behind passed ahead : Text) (unclosed : closeBrace ∉ passed) :
    locateFrom behind (passed ++ ahead) = locateFrom (passed.reverse ++ behind) ahead := by
  induction passed generalizing behind with
  | nil => rfl
  | cons c rest ih =>
    simp only [List.mem_cons, not_or] at unclosed
    simp [locateFrom, Ne.symm unclosed.1, ih (c :: behind) unclosed.2]

theorem locateFrom_reverse (behind ahead : Text) (unclosed : closeBrace ∉ behind) :
    locateFrom [] (behind.reverse ++ ahead) = locateFrom behind ahead := by
  rw [locateFrom_append [] behind.reverse ahead (by simpa using unclosed)]
  simp

theorem unclosed_of_locateFrom {behind ahead before content after : Text}
    (unclosed : closeBrace ∉ behind) (found : locateFrom behind ahead = .tag before content after) :
    closeBrace ∉ before := by
  induction ahead generalizing behind with
  | nil => simp [locateFrom] at found
  | cons c rest ih =>
    by_cases closes : c = closeBrace
    · simp only [locateFrom, closes, ↓reduceIte] at found
      split at found
      · simp at found
      · rename_i inner outer cut
        simp only [Location.tag.injEq] at found
        have parts := (Text.cutAt_eq_some cut).1
        rw [parts] at unclosed
        simp only [List.mem_append, List.mem_cons, not_or] at unclosed
        exact found.1 ▸ unclosed.2.2
    · simp only [locateFrom, closes, ↓reduceIte] at found
      exact ih (by simp [Ne.symm closes, unclosed]) found

/-- A search from some place finds what a search from the beginning finds. -/
theorem turned_locateFrom (behind ahead : Text) (unclosed : closeBrace ∉ behind) :
    (locateFrom behind ahead).turned = locate (behind.reverse ++ ahead) := by
  induction ahead generalizing behind with
  | nil =>
    have missing : Text.cutAt closeBrace behind.reverse = none :=
      Text.cutAt_eq_none_iff.mpr (by simpa using unclosed)
    simp [locateFrom, locate, Location.turned, missing]
  | cons c rest ih =>
    by_cases closes : c = closeBrace
    · subst closes
      have first := Text.cutAt_append behind.reverse rest (by simpa using unclosed)
      simp only [locateFrom, ↓reduceIte, locate, first, Text.cutAtLast, List.reverse_reverse]
      cases Text.cutAt openBrace behind <;> simp [Location.turned]
    · have further := ih (c :: behind) (by simp [Ne.symm closes, unclosed])
      simpa [locateFrom, closes] using further

/-- A run from some place gives what a run from the beginning gives, the evaluations before counted
too. -/
theorem Scope.runFrom_eq (scope : Scope) (draws : Draws) (budget done : Nat) (behind ahead : Text)
    (store : Store) (unclosed : closeBrace ∉ behind) :
    scope.runFrom draws budget done behind ahead store =
      let (report, store) :=
        scope.run budget (fun n => draws (done + n)) (behind.reverse ++ ahead) store
      (report.after done, store) := by
  induction budget generalizing draws done behind ahead store with
  | zero =>
    simp only [Scope.run, Scope.runFrom, locateFrom_reverse behind ahead unclosed]
    split <;> simp [Report.after]
  | succ budget ih =>
    simp only [Scope.run, Scope.runFrom, locateFrom_reverse behind ahead unclosed, Nat.add_zero]
    split
    · simp [Report.after]
    · simp [Report.after]
    · rename_i before content after found
      have closed := unclosed_of_locateFrom unclosed found
      split
      · simp [Report.after]
      · rw [ih draws (done + 1) before _ _ closed,
          ih (fun n => draws (done + n)) (0 + 1) before _ _ closed]
        simp [Report.after, Nat.add_assoc]

theorem Scope.run_zero (scope : Scope) (draws : Draws) (text : Text) (store : Store) :
    scope.run 0 draws text store =
      match locate text with
      | .finished => (⟨text, 0, .complete⟩, store)
      | .unopened => (⟨text, 0, .unterminated⟩, store)
      | .tag _ _ _ => (⟨text, 0, .budgetExhausted⟩, store) := by
  have found := turned_locateFrom [] text (by simp)
  simp only [List.reverse_nil, List.nil_append] at found
  simp only [Scope.run, Scope.runFrom, ← found]
  cases locateFrom [] text <;> simp [Location.turned]

/-- One evaluation replaces the next tag by its text, and the rest of the run goes on with the whole
text that this gives. -/
theorem Scope.run_succ (scope : Scope) (budget : Nat) (draws : Draws) (text : Text)
    (store : Store) :
    scope.run (budget + 1) draws text store =
      match locate text with
      | .finished => (⟨text, 0, .complete⟩, store)
      | .unopened => (⟨text, 0, .unterminated⟩, store)
      | .tag before content after =>
        let (replacement, store) := scope.evaluate (draws 0) content store
        if replacement = bracketed content then (⟨text, 1, .fixedPoint⟩, store)
        else
          let (report, store) := scope.run budget draws.next (before ++ replacement ++ after) store
          (report.after 1, store) := by
  have found := turned_locateFrom [] text (by simp)
  simp only [List.reverse_nil, List.nil_append] at found
  rw [← found]
  cases place : locateFrom [] text with
  | finished => simp [Scope.run, Scope.runFrom, place, Location.turned]
  | unopened => simp [Scope.run, Scope.runFrom, place, Location.turned]
  | tag before content after =>
    have closed := unclosed_of_locateFrom (by simp) place
    rw [Scope.run]
    simp only [Scope.runFrom, place, Location.turned]
    rw [Scope.runFrom_eq scope draws budget (0 + 1) before _ _ closed]
    simp [Nat.add_comm]
    rfl

end TagWeave
