/-! Steps one after the other: those that may fail, and those that add to a history. -/
namespace TagWeave

/-- A step that leaves the state as it was, if it ends in an error. -/
def KeptOnError {ε α σ : Type} (state : σ) (outcome : Except ε α × σ) : Prop :=
  ∀ error, outcome.1 = .error error → outcome.2 = state

theorem bind_eq_ok_iff {ε α β : Type} {result : Except ε α} {next : α → Except ε β} {value : β} :
    result >>= next = .ok value ↔ ∃ given, result = .ok given ∧ next given = .ok value := by
  cases result <;> simp [bind, Except.bind]

/-- A state that is what its history tells stays so, if each step adds to the history what it did. The
newest step comes first. -/
theorem foldl_tells {σ ε : Type} {step : σ → ε → σ} {Tells : σ → List ε → Prop}
    (told : ∀ {state history}, Tells state history →
      ∀ event, Tells (step state event) (event :: history))
    {state : σ} {history : List ε} (begun : Tells state history) (events : List ε) :
    Tells (events.foldl step state) (events.reverse ++ history) := by
  induction events generalizing state history with
  | nil => exact begun
  | cons event rest ih =>
    rw [List.foldl_cons, List.reverse_cons, List.append_assoc]
    exact ih (told begun event)

end TagWeave
