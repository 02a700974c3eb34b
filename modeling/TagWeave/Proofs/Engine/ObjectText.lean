import TagWeave.Proofs.Engine.RunSemantics
import TagWeave.Proofs.Tag.Division
import TagWeave.Proofs.Text.Parts
import TagWeave.Proofs.Value.Functions
import TagWeave.Proofs.Value.Members

/-! Objects in templates. The name of an object is replaced by the JSON of the object, in the order of
its keys at every depth. That text is read on like any other: it is a tag with braces of its own, so
what a name gives is the JSON only as long as no evaluation is left for it. -/
namespace TagWeave

variable {name : Text} {store : Store} {entries : Entries Value}

/-- The text of an object begins and ends with a brace, so there is a tag to evaluate in it. -/
theorem exists_locate_render (members : List (Text × Json)) :
    ∃ before content after, locate (Json.object members).render = .tag before content after := by
  refine exists_locate_eq_tag_iff.mpr ⟨?_, ?_⟩
  · simp [Json.render]
  · simp [Json.render, Text.upTo]

/-- The text of an object is a tag of one name only if the object is empty and so is the name: a key
is in quotes, and a colon follows it. -/
theorem render_eq_bracketed_iff {members : List (Text × Json)} (colon : ':' ∉ name) :
    (Json.object members).render = bracketed name ↔
      name = [] ∧ Json.object members = .object [] := by
  constructor
  · intro same
    have inner : Text.joined [','] (Json.renderMembers members) = name := by
      simpa [Json.render, bracketed] using same
    cases members with
    | nil => exact ⟨inner.symm, rfl⟩
    | cons member rest =>
      obtain ⟨key, value⟩ := member
      have inside : (Json.quoted key ++ ':' :: value.render).Sublist
          (Text.joined [','] (Json.renderMembers ((key, value) :: rest))) :=
        Text.sublist_joined_of_mem List.mem_cons_self
      rw [inner] at inside
      exact absurd (inside.subset (by simp)) colon
  · rintro ⟨rfl, empty⟩
    rw [empty]
    rfl

theorem Scope.evaluate_object (scope : Scope) (draw : Draw) (colon : ':' ∉ name) (opened : '(' ∉ name)
    (trimmed : Text.trim name = name) (bound : store.get? name = some (.object entries)) :
    scope.evaluate draw name store = ((Value.toJson (.object entries)).render, store) := by
  have named : name.IsName := ⟨colon, opened, trimmed⟩
  have shown : scope.evaluate draw name store = ((Value.object entries).toText, store) :=
    evaluate_data named bound rfl
  rw [shown, Value.toText]

namespace Scope

/-- The name of an object gives the JSON of the object, its keys in order at every depth, and leaves
the store as it is. That is the output of a run with one evaluation. The JSON has a tag in it, and a
run with more evaluations goes on with the JSON as its template; but an empty object without a name is
a tag that gives itself, and the run ends with it. -/
theorem run_object_text (scope : Scope) (draws : Draws) (store : Store) {name : Text}
    {entries : Entries Value} (plain : name.Plain) (colon : ':' ∉ name) (opened : '(' ∉ name)
    (trimmed : Text.trim name = name) (bound : store.get? name = some (.object entries)) :
    let json := Value.toJson (.object entries)
    json.Ordered ∧
    (∃ before content after, locate json.render = .tag before content after) ∧
    (∃ outcome, scope.run 1 draws (bracketed name) store = (⟨json.render, 1, outcome⟩, store)) ∧
    (¬ (name = [] ∧ json = .object []) →
      ∀ budget, scope.run (budget + 1) draws (bracketed name) store =
        let (report, final) := scope.run budget draws.next json.render store
        (report.after 1, final)) ∧
    (name = [] ∧ json = .object [] →
      ∀ budget, scope.run (budget + 1) draws (bracketed name) store =
        (⟨json.render, 1, .fixedPoint⟩, store)) := by
  intro json
  have place : locate (bracketed name) = .tag [] name [] :=
    locate_eq_tag_iff.mpr ⟨by simp, by simp, plain.1, plain.2⟩
  have evaluated : scope.evaluate (draws 0) name store = (json.render, store) :=
    evaluate_object scope _ colon opened trimmed bound
  have step (budget : Nat) := scope.run_succ budget draws (bracketed name) store
  simp only [place, evaluated, List.nil_append, List.append_nil] at step
  have itself : json.render = bracketed name ↔ name = [] ∧ json = .object [] :=
    render_eq_bracketed_iff colon
  obtain ⟨before, content, after, further⟩ :
      ∃ before content after, locate json.render = .tag before content after :=
    exists_locate_render _
  refine ⟨Value.ordered_toJson _, ⟨before, content, after, further⟩, ?_, ?_, ?_⟩
  · by_cases same : json.render = bracketed name
    · exact ⟨.fixedPoint, by rw [step 0, if_pos same, same]⟩
    · refine ⟨.budgetExhausted, ?_⟩
      rw [step 0, if_neg same, run_zero, further]
      rfl
  · intro other budget
    rw [step budget, if_neg (mt itself.mp other)]
  · intro empty budget
    rw [step budget, if_pos (itself.mpr empty), itself.mpr empty]

/-- A nested object in the order of its keys. -/
theorem run_object_text_user :
    let address := Value.object [("zip".toList, .text "1".toList)]
    let user := Value.object [("name".toList, .text "Ann".toList), ("home".toList, address)]
    let store := Store.empty.set "user".toList user
    (Text.Plain "user".toList ∧ ':' ∉ "user".toList ∧ '(' ∉ "user".toList ∧
      Text.trim "user".toList = "user".toList ∧ store.get? "user".toList = some user) ∧
    ∃ outcome, standard.run 1 default "⟨user⟩".braced store =
      (⟨"⟨\"home\":⟨\"zip\":\"1\"⟩,\"name\":\"Ann\"⟩".braced, 1, outcome⟩, store) := by
  intro address user store
  have plain : Text.Plain "user".toList := by decide
  have colon : ':' ∉ "user".toList := by decide
  have opened : '(' ∉ "user".toList := by decide
  have bound : store.get? "user".toList = some user := rfl
  obtain ⟨-, -, once, -⟩ := run_object_text standard default store plain colon opened rfl bound
  exact ⟨⟨plain, colon, opened, rfl, bound⟩, once⟩

/-- A second evaluation takes the JSON for a tag: it binds the key, in its quotes, and gives
nothing. -/
theorem run_object_text_read_on :
    let user := Value.object [("id".toList, .text "7".toList)]
    let store := Store.empty.set "user".toList user
    (store.functions = [] ∧ Text.Plain "user".toList ∧ ':' ∉ "user".toList ∧ '(' ∉ "user".toList ∧
      Text.trim "user".toList = "user".toList ∧ store.get? "user".toList = some user) ∧
    standard.run 2 default "⟨user⟩".braced store =
      (⟨[], 2, .complete⟩,
        store.set (Json.quoted "id".toList) (.text (Json.quoted "7".toList))) ∧
    ([] : Text) ≠ user.toJson.render ∧ store.get? (Json.quoted "id".toList) = none := by
  refine ⟨⟨rfl, ?_, ?_, ?_, rfl, rfl⟩, rfl, ?_, rfl⟩ <;> decide

end Scope

end TagWeave
