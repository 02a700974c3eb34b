import TagWeave.Proofs.Tag.Effects

/-! Calls of tags. A tag calls at most one function, and then it gives what the function gives; if it
calls none, what it gives depends on the store and the meanings of names alone. -/
namespace TagWeave

namespace Scope

/-- The function that an object lends to a payload: one that stands as an entry before the colon, if
the payload is neither an entry itself nor an assignment. -/
def lent? (entries : Entries Value) (name payload : Text) (store : Store) : Option FunctionRef :=
  match Entries.find? payload entries, assignInto? name payload store,
    Entries.find? ((Text.cutAt ':' payload).getD (payload, [])).1 entries with
  | none, none, some (.function reference) => some reference
  | _, _, _ => none

/-- The function that a tag calls, if it calls one. -/
def callee? (scope : Scope) (content : Text) (store : Store) : Option FunctionRef :=
  let (name, payload) := scope.splitTag store (Text.trim content)
  match scope.resolve? store name, payload with
  | some (.function reference), _ => some reference
  | some (.object entries), some payload => lent? entries name payload store
  | _, _ => none

variable {scope other : Scope} {draw later : Draw} {content name payload : Text} {store : Store}
  {entries : Entries Value} {reference : FunctionRef} {callable : Builtin → Prop}

theorem splitTag_congr (names : other.resolve? store = scope.resolve? store) (content : Text) :
    other.splitTag store content = scope.splitTag store content := by
  have means : other.meansFunction store = scope.meansFunction store := by
    unfold meansFunction
    rw [names]
  unfold splitTag
  rw [means]

theorem readEntry_congr
    (same : ∀ reference,
      Entries.find? ((Text.cutAt ':' payload).getD (payload, [])).1 entries =
        some (.function reference) →
      other.functions reference later = scope.functions reference draw) :
    other.readEntry later entries payload store = scope.readEntry draw entries payload store := by
  unfold readEntry
  dsimp only
  split
  · rename_i reference found
    rw [same reference found]
  · rfl
  · rfl

/-- Where names mean the same, an evaluation depends on its scope and its chance only through the
function that it calls. -/
theorem evaluate_congr (names : other.resolve? store = scope.resolve? store)
    (same : ∀ reference, scope.callee? content store = some reference →
      other.functions reference later = scope.functions reference draw) :
    other.evaluate later content store = scope.evaluate draw content store := by
  unfold evaluate
  unfold callee? at same
  dsimp only at same ⊢
  rw [splitTag_congr names]
  generalize scope.splitTag store (Text.trim content) = parts at same ⊢
  obtain ⟨name, payload⟩ := parts
  unfold evaluateParts
  rw [names]
  split
  · rename_i reference meant
    rw [meant] at same
    rw [same reference rfl]
  · -- An object may lend a function to the tag: the entry before the colon.
    rename_i entries payload meant supplied
    dsimp only at meant supplied same
    subst supplied
    rw [meant] at same
    dsimp only [lent?] at same
    cases missing : Entries.find? payload entries with
    | some value => rfl
    | none =>
      unfold applyPayload
      cases unassigned : assignInto? name payload store with
      | some left => rfl
      | none =>
        dsimp only
        apply readEntry_congr
        intro reference found
        exact same reference (by rw [missing, unassigned, found])
  · rename_i payload supplied unlike_function unlike_object
    unfold applyPayload
    split
    · rfl
    · split
      · rfl
      · rename_i entries meant
        exact absurd meant (unlike_object entries)
      · rfl
  · rfl
  · rfl

theorem evaluate_effect_of_silent (silent : scope.callee? content store = none) (draw : Draw) :
    Effect callable content store (scope.evaluate draw content store).1
      (scope.evaluate draw content store).2 := by
  -- Functions that do nothing would make no difference, and what they do is an effect of tags.
  have alike : Scope.evaluate ⟨fun _ _ _ store => ([], store), scope.registry⟩ draw content store =
      scope.evaluate draw content store := by
    refine evaluate_congr rfl ?_
    intro reference called
    rw [silent] at called
    cases called
  rw [← alike]
  exact evaluate_effect (fun _ _ _ _ => .nothing) draw content

/-- A tag with a call gives what the function gives for some payload. -/
theorem evaluate_of_call (called : scope.callee? content store = some reference) (draw : Draw) :
    scope.Reaches store reference ∧
      ∃ payload, scope.evaluate draw content store = scope.functions reference draw payload store := by
  unfold callee? at called
  unfold evaluate
  dsimp only at called ⊢
  generalize scope.splitTag store (Text.trim content) = parts at called ⊢
  obtain ⟨name, payload⟩ := parts
  dsimp only at called ⊢
  split at called
  · rename_i given _ _ _ meant
    cases called
    refine ⟨reaches_of_resolve? meant, given.getD [], ?_⟩
    simp only [evaluateParts, meant]
  · rename_i entries payload meant
    unfold lent? at called
    split at called
    · rename_i reference missing unassigned found
      cases called
      have bound : store.get? name = some (.object entries) :=
        (resolve?_eq_get? (by simp [meant])).symm.trans meant
      refine ⟨.inr (.entry bound found), ((Text.cutAt ':' payload).getD (payload, [])).2, ?_⟩
      simp only [evaluateParts, meant, missing, applyPayload, unassigned, readEntry, found]
    · cases called
  · cases called

end Scope

end TagWeave
