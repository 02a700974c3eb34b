import TagWeave.Catalogue.Template

/-! The catalogue keeps acceptable templates, each under its own id. An operation gives its result
and the catalogue after it, also where it refuses. -/
namespace TagWeave

structure Catalogue where
  templates : List Template
  distinct : (templates.map Template.id).Nodup
  acceptable : ∀ template ∈ templates, template.validate = .ok ()

namespace Catalogue

def empty : Catalogue := ⟨[], List.nodup_nil, fun _ member => nomatch member⟩

def find? (catalogue : Catalogue) (id : Text) : Option Template :=
  catalogue.templates.find? fun template => template.id == id

theorem find?_eq_none_iff {catalogue : Catalogue} {id : Text} :
    catalogue.find? id = none ↔ ∀ template ∈ catalogue.templates, template.id ≠ id := by
  simp [find?]

def contains (catalogue : Catalogue) (id : Text) : Bool := (catalogue.find? id).isSome

def size (catalogue : Catalogue) : Nat := catalogue.templates.length

def get (catalogue : Catalogue) (id : Text) : Except Refusal Template :=
  match catalogue.find? id with
  | some template => .ok template
  | none => .error (.notFound id)

/-- The templates by the order of their ids. -/
def list (catalogue : Catalogue) : List Template :=
  catalogue.templates.mergeSort fun a b => !Text.precedes b.id a.id

def add (catalogue : Catalogue) (template : Template) (accepted : template.validate = .ok ())
    (new : catalogue.find? template.id = none) : Catalogue where
  templates := catalogue.templates ++ [template]
  distinct := by
    rw [List.map_append, List.nodup_append]
    refine ⟨catalogue.distinct, by simp, ?_⟩
    rintro _ listed _ last rfl
    obtain ⟨old, member, same⟩ := List.mem_map.mp listed
    rw [List.map_singleton, List.mem_singleton] at last
    exact find?_eq_none_iff.mp new old member (same.trans last)
  acceptable := by
    intro other member
    rcases List.mem_append.mp member with old | last
    · exact catalogue.acceptable other old
    · rwa [List.mem_singleton.mp last]

theorem id_replaced (changed old : Template) :
    (if old.id = changed.id then changed else old).id = old.id := by
  split
  · rename_i same
    exact same.symm
  · rfl

/-- The catalogue with a template in place of the one of the same id. -/
def replace (catalogue : Catalogue) (changed : Template) (accepted : changed.validate = .ok ()) :
    Catalogue where
  templates := catalogue.templates.map fun old => if old.id = changed.id then changed else old
  distinct := by
    simp only [List.map_map, Function.comp_def, id_replaced]
    exact catalogue.distinct
  acceptable := by
    intro other member
    obtain ⟨old, listed, rfl⟩ := List.mem_map.mp member
    split
    · exact accepted
    · exact catalogue.acceptable old listed

def remove (catalogue : Catalogue) (id : Text) : Catalogue where
  templates := catalogue.templates.filter fun template => template.id != id
  distinct := catalogue.distinct.sublist (List.filter_sublist.map Template.id)
  acceptable template member := catalogue.acceptable template (List.mem_filter.mp member).1

/-- Add an acceptable template under a new id. -/
def create (catalogue : Catalogue) (template : Template) : Except Refusal Template × Catalogue :=
  match accepted : template.validate with
  | .error refusal => (.error refusal, catalogue)
  | .ok () =>
    match new : catalogue.find? template.id with
    | some _ => (.error (.alreadyExists template.id), catalogue)
    | none => (.ok template, catalogue.add template accepted new)

def update (catalogue : Catalogue) (now : Moment) (id : Text) (change : Template.Update) :
    Except Refusal Template × Catalogue :=
  match catalogue.find? id with
  | none => (.error (.notFound id), catalogue)
  | some template =>
    match accepted : (change.apply now template).validate with
    | .error refusal => (.error refusal, catalogue)
    | .ok () => (.ok (change.apply now template), catalogue.replace _ accepted)

def delete (catalogue : Catalogue) (id : Text) : Except Refusal Unit × Catalogue :=
  match catalogue.find? id with
  | none => (.error (.notFound id), catalogue)
  | some _ => (.ok (), catalogue.remove id)

end Catalogue

end TagWeave
