import Mathlib.Data.List.Nodup
import TagWeave.Catalogue.Basic
import TagWeave.Proofs.Steps
import TagWeave.Proofs.Text.Order

/-! What a catalogue keeps. Each operation is told by what a lookup finds after it, and one that is
refused leaves the catalogue as it was. -/
namespace TagWeave

@[simp] theorem Template.Update.apply_id (change : Template.Update) (now : Moment)
    (template : Template) : (change.apply now template).id = template.id := rfl

namespace Catalogue

variable {catalogue after : Catalogue} {template other made changed : Template}
  {refusal : Refusal} {id : Text} {now : Moment} {change : Template.Update}

theorem mem_of_find? (found : catalogue.find? id = some template) :
    template ∈ catalogue.templates ∧ template.id = id :=
  ⟨List.mem_of_find?_eq_some found, by simpa using List.find?_some found⟩

theorem find?_of_mem (member : template ∈ catalogue.templates) :
    catalogue.find? template.id = some template := by
  cases found : catalogue.find? template.id with
  | none => exact absurd rfl (find?_eq_none_iff.mp found template member)
  | some other =>
    obtain ⟨listed, same⟩ := mem_of_find? found
    rw [List.inj_on_of_nodup_map catalogue.distinct listed member same]

theorem contains_iff : catalogue.contains id = true ↔ ∃ template, catalogue.find? id = some template := by
  simp [contains, Option.isSome_iff_exists]

theorem create_of_unacceptable (unacceptable : template.validate = .error refusal) :
    catalogue.create template = (.error refusal, catalogue) := by
  unfold create
  split
  · rename_i reason failed
    rw [Except.error.inj (failed.symm.trans unacceptable)]
  · rename_i accepted
    cases accepted.symm.trans unacceptable

theorem create_of_taken (accepted : template.validate = .ok ())
    (taken : catalogue.find? template.id = some other) :
    catalogue.create template = (.error (.alreadyExists template.id), catalogue) := by
  unfold create
  split
  · rename_i failed
    cases failed.symm.trans accepted
  · split
    · rfl
    · rename_i new
      cases new.symm.trans taken

theorem create_of_new (accepted : template.validate = .ok ())
    (new : catalogue.find? template.id = none) :
    catalogue.create template = (.ok template, catalogue.add template accepted new) := by
  unfold create
  split
  · rename_i failed
    cases failed.symm.trans accepted
  · split
    · rename_i taken
      cases taken.symm.trans new
    · rfl

theorem update_of_missing (missing : catalogue.find? id = none) :
    catalogue.update now id change = (.error (.notFound id), catalogue) := by
  rw [update, missing]

theorem update_of_unacceptable (found : catalogue.find? id = some template)
    (unacceptable : (change.apply now template).validate = .error refusal) :
    catalogue.update now id change = (.error refusal, catalogue) := by
  simp only [update, found]
  split
  · rename_i reason failed
    rw [Except.error.inj (failed.symm.trans unacceptable)]
  · rename_i accepted
    cases accepted.symm.trans unacceptable

theorem update_of_acceptable (found : catalogue.find? id = some template)
    (accepted : (change.apply now template).validate = .ok ()) :
    catalogue.update now id change =
      (.ok (change.apply now template), catalogue.replace _ accepted) := by
  simp only [update, found]
  split
  · rename_i failed
    cases failed.symm.trans accepted
  · rfl

theorem delete_of_missing (missing : catalogue.find? id = none) :
    catalogue.delete id = (.error (.notFound id), catalogue) := by
  rw [delete, missing]

theorem delete_of_found (found : catalogue.find? id = some template) :
    catalogue.delete id = (.ok (), catalogue.remove id) := by
  rw [delete, found]

/-- A template is made if it is acceptable and its id is new. -/
theorem create_eq_ok_iff :
    catalogue.create template = (.ok made, after) ↔
      ∃ accepted new, made = template ∧ after = catalogue.add template accepted new := by
  constructor
  · intro made_ok
    unfold create at made_ok
    split at made_ok
    · cases made_ok
    split at made_ok
    · cases made_ok
    cases made_ok
    exact ⟨‹_›, ‹_›, rfl, rfl⟩
  · rintro ⟨accepted, new, rfl, rfl⟩
    exact create_of_new accepted new

theorem update_eq_ok_iff :
    catalogue.update now id change = (.ok changed, after) ↔
      ∃ template, catalogue.find? id = some template ∧ changed = change.apply now template ∧
        ∃ accepted, after = catalogue.replace changed accepted := by
  cases found : catalogue.find? id with
  | none => simp [update_of_missing found]
  | some template =>
    cases accepted : (change.apply now template).validate with
    | error refusal =>
      simp only [update_of_unacceptable found accepted, Prod.mk.injEq, reduceCtorEq, false_and,
        Option.some.injEq, false_iff, not_exists]
      rintro _ ⟨rfl, rfl, fine, -⟩
      cases fine.symm.trans accepted
    | ok _ =>
      simp only [update_of_acceptable found accepted, Prod.mk.injEq, Except.ok.injEq,
        Option.some.injEq]
      constructor
      · rintro ⟨rfl, rfl⟩
        exact ⟨template, rfl, rfl, accepted, rfl⟩
      · rintro ⟨_, rfl, rfl, _, rfl⟩
        exact ⟨rfl, rfl⟩

theorem delete_eq_ok_iff {done : Unit} :
    catalogue.delete id = (.ok done, after) ↔
      (∃ template, catalogue.find? id = some template) ∧ after = catalogue.remove id := by
  cases found : catalogue.find? id with
  | none => simp [delete_of_missing found]
  | some template => simp [delete_of_found found, eq_comm]

theorem create_refused (catalogue : Catalogue) (template : Template) :
    KeptOnError catalogue (catalogue.create template) := by
  intro refusal refused
  cases accepted : template.validate with
  | error refusal => rw [create_of_unacceptable accepted]
  | ok _ =>
    cases new : catalogue.find? template.id with
    | some other => rw [create_of_taken accepted new]
    | none =>
      rw [create_of_new accepted new] at refused
      cases refused

theorem update_refused (catalogue : Catalogue) (now : Moment) (id : Text)
    (change : Template.Update) : KeptOnError catalogue (catalogue.update now id change) := by
  intro refusal refused
  cases found : catalogue.find? id with
  | none => rw [update_of_missing found]
  | some template =>
    cases accepted : (change.apply now template).validate with
    | error refusal => rw [update_of_unacceptable found accepted]
    | ok _ =>
      rw [update_of_acceptable found accepted] at refused
      cases refused

theorem delete_refused (catalogue : Catalogue) (id : Text) :
    KeptOnError catalogue (catalogue.delete id) := by
  intro refusal refused
  cases found : catalogue.find? id with
  | none => rw [delete_of_missing found]
  | some template =>
    rw [delete_of_found found] at refused
    cases refused

/-- A made template is found under its id, and the others as before. -/
theorem find?_create (made_ok : catalogue.create template = (.ok made, after)) (other : Text) :
    after.find? other = if template.id = other then some template else catalogue.find? other := by
  obtain ⟨accepted, new, -, rfl⟩ := create_eq_ok_iff.mp made_ok
  have sought : (catalogue.add template accepted new).find? other =
      (catalogue.find? other).or (if template.id = other then some template else none) := by
    simp [find?, add, List.find?_append, List.find?_singleton]
  rw [sought]
  split
  · rename_i same
    subst same
    simp [new]
  · simp

theorem find?_update (changed_ok : catalogue.update now id change = (.ok changed, after))
    (other : Text) :
    after.find? other = if id = other then some changed else catalogue.find? other := by
  obtain ⟨template, found, rfl, accepted, rfl⟩ := update_eq_ok_iff.mp changed_ok
  obtain ⟨-, rfl⟩ := mem_of_find? found
  have sought : (catalogue.replace _ accepted).find? other =
      (catalogue.find? other).map fun old =>
        if old.id = template.id then change.apply now template else old := by
    simp only [find?, replace, List.find?_map, Function.comp_def, id_replaced]
    rfl
  rw [sought]
  split
  · rename_i same
    subst same
    simp [found]
  · rename_i different
    cases elsewhere : catalogue.find? other with
    | none => rfl
    | some old =>
      obtain ⟨-, rfl⟩ := mem_of_find? elsewhere
      simp [Ne.symm different]

theorem find?_delete {done : Unit} (deleted : catalogue.delete id = (.ok done, after))
    (other : Text) :
    after.find? other = if id = other then none else catalogue.find? other := by
  obtain ⟨-, rfl⟩ := delete_eq_ok_iff.mp deleted
  simp only [find?, remove, List.find?_filter]
  split
  · rename_i same
    subst same
    simp
  · rename_i different
    congr 1
    funext template
    by_cases here : template.id = other
    · simp [here, Ne.symm different]
    · simp [here]

theorem mem_list : template ∈ catalogue.list ↔ template ∈ catalogue.templates := by
  simp [list]

theorem length_list (catalogue : Catalogue) : catalogue.list.length = catalogue.size := by
  simp [list, size]

theorem mem_list_iff :
    template ∈ catalogue.list ↔ catalogue.find? template.id = some template := by
  rw [mem_list]
  exact ⟨find?_of_mem, fun found => (mem_of_find? found).1⟩

theorem pairwise_list (catalogue : Catalogue) :
    catalogue.list.Pairwise fun a b => Text.NotAfter a.id b.id :=
  Text.pairwise_mergeSort_by Template.id catalogue.templates

theorem nodup_list (catalogue : Catalogue) : (catalogue.list.map Template.id).Nodup :=
  ((List.mergeSort_perm _ _).map Template.id).nodup_iff.mpr catalogue.distinct

theorem list_increasing (catalogue : Catalogue) :
    catalogue.list.Pairwise fun a b => Text.Before a.id b.id :=
  Text.increasing_mergeSort_by Template.id catalogue.distinct

end Catalogue

end TagWeave
