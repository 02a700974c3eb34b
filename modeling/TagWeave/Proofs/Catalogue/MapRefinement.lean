import Mathlib.Data.Finmap
import Mathlib.Data.Finset.Sort
import TagWeave.Proofs.Catalogue.Keeping
import TagWeave.Service.Basic

/-! The catalogue of a service refines a finite map from ids to templates. The map answers every
request by itself; the service is followed step by step with the map beside it, and what every state
keeps is carried along. -/
namespace TagWeave

/-- What is asked of a catalogue. -/
inductive Catalogue.Request where
  | create (template : Template)
  | get (id : Text)
  | list
  | update (now : Moment) (id : Text) (change : Template.Update)
  | delete (id : Text)
  | contains (id : Text)
  | size
  | render (draws : Draws) (id : Text) (store : Store)

namespace Catalogue.Request

def subject? : Request → Option Text
  | .get id | .update _ id _ | .delete id | .render _ id _ => some id
  | .create _ | .list | .contains _ | .size => none

/-- Requests that only look. -/
def looks : Request → Bool
  | .get _ | .list | .contains _ | .size | .render _ _ _ => true
  | .create _ | .update _ _ _ | .delete _ => false

end Catalogue.Request

inductive Catalogue.Answer where
  | template (template : Template)
  | templates (templates : List Template)
  | deleted
  | present (present : Bool)
  | count (count : Nat)
  | rendered (report : Report)
  deriving DecidableEq

abbrev Catalogue.Result := Except Refusal Catalogue.Answer

open Catalogue (Request Answer Result)

/-- What a template's content gives, by chances and a store. -/
abbrev Engine := Draws → Text → Store → Report

namespace Service

def answering {α : Type} (answer : α → Answer) (outcome : Except Refusal α × Service) :
    Result × Service :=
  (outcome.1.map answer, outcome.2)

def carryOut (functions : Functions) (service : Service) : Request → Result × Service
  | .create template => answering .template (service.tryCreate template)
  | .get id => answering .template (service.catalogue.get id, service)
  | .list => (.ok (.templates service.catalogue.list), service)
  | .update now id change => answering .template (service.tryUpdate now id change)
  | .delete id => answering (fun _ => .deleted) (service.tryDelete id)
  | .contains id => (.ok (.present (service.catalogue.contains id)), service)
  | .size => (.ok (.count service.catalogue.size), service)
  | .render draws id store => answering .rendered (service.tryRender functions draws id store)

def carryOutAll (functions : Functions) : Service → List Request → List Result × Service
  | service, [] => ([], service)
  | service, request :: rest =>
    let (result, after) := service.carryOut functions request
    let (results, final) := after.carryOutAll functions rest
    (result :: results, final)

def engine (functions : Functions) (service : Service) : Engine := fun draws text store =>
  (service.workshop.run functions service.renderer draws text store).1

end Service

abbrev Shelf := Finmap fun _ : Text => Template

namespace Shelf

/-- What the template under an id gives; without one the id is not found. -/
def look (shelf : Shelf) (id : Text) (answer : Template → Answer) : Result :=
  match shelf.lookup id with
  | some template => .ok (answer template)
  | none => .error (.notFound id)

def inOrder (shelf : Shelf) : List Template :=
  (shelf.keys.sort Text.NotAfter).filterMap shelf.lookup

/-- Carry out one request on a plain map. -/
def carryOut (engine : Engine) (shelf : Shelf) : Request → Result × Shelf
  | .create template =>
    match template.validate with
    | .error refusal => (.error refusal, shelf)
    | .ok () =>
      if template.id ∈ shelf then (.error (.alreadyExists template.id), shelf)
      else (.ok (.template template), shelf.insert template.id template)
  | .get id => (shelf.look id .template, shelf)
  | .list => (.ok (.templates shelf.inOrder), shelf)
  | .update now id change =>
    match shelf.lookup id with
    | none => (.error (.notFound id), shelf)
    | some template =>
      let changed := { template with
        name := change.name.getD template.name
        content := change.content.getD template.content
        description := change.description.getD template.description
        updated := now }
      match changed.validate with
      | .error refusal => (.error refusal, shelf)
      | .ok () => (.ok (.template changed), shelf.insert id changed)
  | .delete id =>
    if id ∈ shelf then (.ok .deleted, shelf.erase id) else (.error (.notFound id), shelf)
  | .contains id => (.ok (.present (id ∈ shelf)), shelf)
  | .size => (.ok (.count shelf.keys.card), shelf)
  | .render draws id store =>
    (shelf.look id fun template => .rendered (engine draws template.content store), shelf)

def carryOutAll (engine : Engine) : Shelf → List Request → List Result × Shelf
  | shelf, [] => ([], shelf)
  | shelf, request :: rest =>
    let (result, after) := shelf.carryOut engine request
    let (results, final) := after.carryOutAll engine rest
    (result :: results, final)

end Shelf

/-- A map shows a catalogue if it has the same template under each id. -/
def Shelf.Shows (shelf : Shelf) (catalogue : Catalogue) : Prop :=
  ∀ id, shelf.lookup id = catalogue.find? id

variable {shelf : Shelf} {catalogue after : Catalogue} {service : Service}
  {functions : Functions} {template made : Template} {request : Request} {requests : List Request}
  {id : Text} {now : Moment} {change : Template.Update}

namespace Shelf.Shows

theorem empty : Shelf.Shows ∅ .empty := fun _ => rfl

theorem mem_iff (shows : shelf.Shows catalogue) : id ∈ shelf ↔ catalogue.contains id = true := by
  rw [← Finmap.lookup_isSome, shows id]
  rfl

theorem look (shows : shelf.Shows catalogue) (id : Text) (answer : Template → Answer) :
    shelf.look id answer = (catalogue.get id).map answer := by
  unfold Shelf.look Catalogue.get
  rw [shows id]
  cases catalogue.find? id <;> rfl

theorem keys (shows : shelf.Shows catalogue) :
    shelf.keys = (catalogue.list.map Template.id).toFinset := by
  ext id
  rw [Finmap.mem_keys, shows.mem_iff, Catalogue.contains_iff, List.mem_toFinset, List.mem_map]
  constructor
  · rintro ⟨template, found⟩
    obtain ⟨listed, same⟩ := Catalogue.mem_of_find? found
    exact ⟨template, Catalogue.mem_list.mpr listed, same⟩
  · rintro ⟨template, listed, rfl⟩
    exact ⟨template, Catalogue.mem_list_iff.mp listed⟩

theorem inOrder (shows : shelf.Shows catalogue) :
    shelf.inOrder = catalogue.list := by
  have ordered : (catalogue.list.map Template.id).toFinset.sort Text.NotAfter =
      catalogue.list.map Template.id :=
    (List.toFinset_sort _ catalogue.nodup_list).mpr (List.pairwise_map.mpr catalogue.pairwise_list)
  rw [Shelf.inOrder, shows.keys, ordered, List.filterMap_map]
  have own : ∀ template ∈ catalogue.list, (shelf.lookup ∘ Template.id) template = some template :=
    fun template listed => (shows template.id).trans (Catalogue.mem_list_iff.mp listed)
  rw [List.filterMap_congr own, List.filterMap_some]

theorem card_keys (shows : shelf.Shows catalogue) :
    shelf.keys.card = catalogue.size := by
  rw [shows.keys, List.toFinset_card_of_nodup catalogue.nodup_list, List.length_map,
    Catalogue.length_list]

theorem insert (shows : shelf.Shows catalogue)
    (found : ∀ other, after.find? other = if id = other then some template else catalogue.find? other) :
    Shelf.Shows (Finmap.insert id template shelf) after := by
  intro other
  rw [found other]
  split
  · rename_i same
    rw [← same, Finmap.lookup_insert]
  · rename_i different
    rw [Finmap.lookup_insert_of_ne _ (Ne.symm different), shows other]

theorem erase (shows : shelf.Shows catalogue) {done : Unit}
    (deleted : catalogue.delete id = (.ok done, after)) :
    Shelf.Shows (Finmap.erase id shelf) after := by
  intro other
  rw [Catalogue.find?_delete deleted other]
  split
  · rename_i same
    rw [← same, Finmap.lookup_erase]
  · rename_i different
    rw [Finmap.lookup_erase_ne (Ne.symm different), shows other]

end Shelf.Shows

/-- What one request does to a service and the map beside it: the results are the same, the map still
shows the catalogue, and rendering is as it was. -/
structure Shelf.Agrees (functions : Functions) (service : Service) (shelf : Shelf)
    (request : Request) : Prop where
  result : (service.carryOut functions request).1 =
    (shelf.carryOut (service.engine functions) request).1
  shows : (shelf.carryOut (service.engine functions) request).2.Shows
    (service.carryOut functions request).2.catalogue
  engine : (service.carryOut functions request).2.engine functions = service.engine functions

namespace Shelf

/-- A request that leaves all but the catalogue and the meters as it is agrees if both sides give the
same and the map shows the new catalogue. -/
theorem Agrees.intro {result : Result} {meters : Meters} {next : Shelf}
    (carried : service.carryOut functions request =
      (result, { service with catalogue := after, meters := meters }))
    (expected : shelf.carryOut (service.engine functions) request = (result, next))
    (shows : next.Shows after) : shelf.Agrees functions service request := by
  constructor
  · rw [carried, expected]
  · rw [carried, expected]
    exact shows
  · rw [carried]
    rfl

namespace Shows

/-- A request that is refused, and one that only looks, leaves both sides as they are. -/
theorem agrees_of_unchanged {result : Result} {meters : Meters}
    (shows : shelf.Shows service.catalogue)
    (carried : service.carryOut functions request = (result, { service with meters := meters }))
    (expected : shelf.carryOut (service.engine functions) request = (result, shelf)) :
    shelf.Agrees functions service request :=
  .intro carried expected shows

theorem agrees_create (shows : shelf.Shows service.catalogue) (template : Template) :
    shelf.Agrees functions service (.create template) := by
  have present : template.id ∈ shelf ↔ _ := shows.mem_iff
  cases accepted : template.validate with
  | error refusal =>
    have created : service.catalogue.create template = _ :=
      Catalogue.create_of_unacceptable accepted
    apply shows.agrees_of_unchanged
    · simp only [Service.carryOut, Service.tryCreate, created, Service.settle, Service.answering,
        Except.map]
      rfl
    · simp only [Shelf.carryOut, accepted]
  | ok _ =>
    cases found : service.catalogue.find? template.id with
    | some other =>
      have created := Catalogue.create_of_taken accepted found
      simp only [Catalogue.contains, found, Option.isSome_some, iff_true] at present
      apply shows.agrees_of_unchanged
      · simp only [Service.carryOut, Service.tryCreate, created, Service.settle, Service.answering,
        Except.map]
        rfl
      · simp only [Shelf.carryOut, accepted, present, ↓reduceIte]
    | none =>
      have created := Catalogue.create_of_new accepted found
      simp only [Catalogue.contains, found, Option.isSome_none, Bool.false_eq_true, iff_false]
        at present
      apply Agrees.intro
      · simp only [Service.carryOut, Service.tryCreate, created, Service.settle, Service.answering,
        Except.map]
        rfl
      · simp only [Shelf.carryOut, accepted, present, ↓reduceIte]
        rfl
      · exact shows.insert (Catalogue.find?_create created)

theorem agrees_update (shows : shelf.Shows service.catalogue) (now : Moment) (id : Text)
    (change : Template.Update) : shelf.Agrees functions service (.update now id change) := by
  have known := shows id
  cases found : service.catalogue.find? id with
  | none =>
    simp only [found] at known
    apply shows.agrees_of_unchanged
    · simp only [Service.carryOut, Service.tryUpdate, Catalogue.update_of_missing found,
        Service.settle, Service.answering, Except.map]
      rfl
    · simp only [Shelf.carryOut, known]
  | some template =>
    simp only [found] at known
    cases accepted : (change.apply now template).validate with
    | error refusal =>
      have updated := Catalogue.update_of_unacceptable found accepted
      simp only [Template.Update.apply] at accepted
      apply shows.agrees_of_unchanged
      · simp only [Service.carryOut, Service.tryUpdate, updated, Service.settle, Service.answering,
        Except.map]
        rfl
      · simp only [Shelf.carryOut, known, accepted]
    | ok _ =>
      have updated := Catalogue.update_of_acceptable found accepted
      simp only [Template.Update.apply] at accepted
      apply Agrees.intro
      · simp only [Service.carryOut, Service.tryUpdate, updated, Service.settle, Service.answering,
        Except.map]
        rfl
      · simp only [Shelf.carryOut, known, accepted]
        rfl
      · exact shows.insert (Catalogue.find?_update updated)

theorem agrees_delete (shows : shelf.Shows service.catalogue) (id : Text) :
    shelf.Agrees functions service (.delete id) := by
  have present : id ∈ shelf ↔ _ := shows.mem_iff
  cases found : service.catalogue.find? id with
  | none =>
    simp only [Catalogue.contains, found, Option.isSome_none, Bool.false_eq_true, iff_false] at present
    apply shows.agrees_of_unchanged
    · simp only [Service.carryOut, Service.tryDelete, Catalogue.delete_of_missing found,
        Service.settle, Service.answering, Except.map]
      rfl
    · simp only [Shelf.carryOut, present, ↓reduceIte]
  | some template =>
    have deleted := Catalogue.delete_of_found found
    simp only [Catalogue.contains, found, Option.isSome_some, iff_true] at present
    apply Agrees.intro
    · simp only [Service.carryOut, Service.tryDelete, deleted, Service.settle, Service.answering,
        Except.map]
      rfl
    · simp only [Shelf.carryOut, present, ↓reduceIte]
      rfl
    · exact shows.erase deleted

theorem agrees_render (shows : shelf.Shows service.catalogue) (draws : Draws) (id : Text)
    (store : Store) : shelf.Agrees functions service (.render draws id store) := by
  have known := shows id
  cases found : service.catalogue.find? id with
  | none =>
    simp only [found] at known
    apply shows.agrees_of_unchanged
    · simp only [Service.carryOut, Service.tryRender, Catalogue.get, found, Service.answering,
        Except.map]
      rfl
    · simp only [Shelf.carryOut, Shelf.look, known]
  | some template =>
    simp only [found] at known
    apply shows.agrees_of_unchanged
    · simp only [Service.carryOut, Service.tryRender, Catalogue.get, found, Service.answering,
        Except.map]
      rfl
    · simp only [Shelf.carryOut, Shelf.look, known]
      rfl

/-- The map keeps up with the service through every request. -/
theorem agrees (shows : shelf.Shows service.catalogue) (functions : Functions) (request : Request) :
    shelf.Agrees functions service request := by
  cases request with
  | create template => exact shows.agrees_create template
  | get id =>
    refine shows.agrees_of_unchanged (by rfl) ?_
    simp only [Shelf.carryOut, shows.look]
  | list =>
    refine shows.agrees_of_unchanged (by rfl) ?_
    simp only [Shelf.carryOut, shows.inOrder]
  | update now id change => exact shows.agrees_update now id change
  | delete id => exact shows.agrees_delete id
  | contains id =>
    refine shows.agrees_of_unchanged (by rfl) ?_
    simp [Shelf.carryOut, shows.mem_iff]
  | size =>
    refine shows.agrees_of_unchanged (by rfl) ?_
    simp only [Shelf.carryOut, shows.card_keys]
  | render draws id store => exact shows.agrees_render draws id store

/-- The map keeps up with the service through every row of requests. -/
theorem agrees_all (shows : shelf.Shows service.catalogue) (functions : Functions)
    (requests : List Request) :
    (service.carryOutAll functions requests).1 =
        (shelf.carryOutAll (service.engine functions) requests).1 ∧
      (shelf.carryOutAll (service.engine functions) requests).2.Shows
        (service.carryOutAll functions requests).2.catalogue := by
  induction requests generalizing service shelf with
  | nil => exact ⟨rfl, shows⟩
  | cons request rest ih =>
    obtain ⟨result, next, engine⟩ := shows.agrees functions request
    have further := ih next
    rw [engine] at further
    simp only [Service.carryOutAll, Shelf.carryOutAll]
    exact ⟨congrArg₂ List.cons result further.1, further.2⟩

end Shows

end Shelf

/-- All that a request can come to: its result and the catalogue after it. -/
inductive Catalogue.Outcome (catalogue : Catalogue) : Request → Result → Catalogue → Prop where
  | refused {request : Request} {refusal : Refusal} (kept : ∀ id, request ≠ .delete id) :
      Outcome catalogue request (.error refusal) catalogue
  | absent {id : Text} (missing : catalogue.find? id = none) :
      Outcome catalogue (.delete id) (.error (.notFound id)) catalogue
  | looked {request : Request} {answer : Answer} (looks : request.looks = true) :
      Outcome catalogue request (.ok answer) catalogue
  | created {template : Template} {after : Catalogue}
      (made : catalogue.create template = (.ok template, after)) :
      Outcome catalogue (.create template) (.ok (.template template)) after
  | updated {now : Moment} {id : Text} {change : Template.Update} {changed : Template}
      {after : Catalogue} (changed_ok : catalogue.update now id change = (.ok changed, after)) :
      Outcome catalogue (.update now id change) (.ok (.template changed)) after
  | deleted {id : Text} {after : Catalogue} (removed : catalogue.delete id = (.ok (), after)) :
      Outcome catalogue (.delete id) (.ok .deleted) after

theorem Catalogue.Outcome.unchanged {result : Result}
    (outcome : catalogue.Outcome request result after)
    (idle : request.looks = true ∨ ∃ refusal, result = .error refusal) : after = catalogue := by
  cases outcome with
  | refused _ | absent _ | looked _ => rfl
  | created _ | updated _ | deleted _ => simp [Catalogue.Request.looks] at idle

/-- Whatever is wrong with a template, it is not that it is not found. -/
theorem Template.validate_ne_notFound : template.validate ≠ .error (.notFound id) := by
  unfold validate
  repeat' split
  all_goals simp

namespace Service

theorem outcome_carryOut (functions : Functions) (service : Service) (request : Request) :
    service.catalogue.Outcome request (service.carryOut functions request).1
      (service.carryOut functions request).2.catalogue := by
  cases request with
  | create template =>
    have kept := service.catalogue.create_refused template
    simp only [carryOut, tryCreate]
    rcases made : service.catalogue.create template with ⟨result, after⟩
    rw [made] at kept
    cases result with
    | error refusal =>
      obtain rfl : after = service.catalogue := kept refusal rfl
      exact .refused (by simp)
    | ok template =>
      obtain ⟨-, -, rfl, -⟩ := Catalogue.create_eq_ok_iff.mp made
      exact .created made
  | get id =>
    simp only [carryOut]
    cases service.catalogue.get id with
    | error refusal => exact .refused (by simp)
    | ok template => exact .looked rfl
  | list => exact .looked rfl
  | update now id change =>
    have kept := service.catalogue.update_refused now id change
    simp only [carryOut, tryUpdate]
    rcases changed : service.catalogue.update now id change with ⟨result, after⟩
    rw [changed] at kept
    cases result with
    | error refusal =>
      obtain rfl : after = service.catalogue := kept refusal rfl
      exact .refused (by simp)
    | ok updated => exact .updated changed
  | delete id =>
    simp only [carryOut, tryDelete]
    cases found : service.catalogue.find? id with
    | none =>
      rw [Catalogue.delete_of_missing found]
      exact .absent found
    | some template =>
      have removed := Catalogue.delete_of_found found
      rw [removed]
      exact .deleted removed
  | contains id => exact .looked rfl
  | size => exact .looked rfl
  | render draws id store =>
    simp only [carryOut, tryRender]
    cases service.catalogue.get id with
    | error refusal => exact .refused (by simp)
    | ok template => exact .looked rfl

/-- An id is not found exactly where the catalogue does not have it. -/
theorem notFound_iff (subject : request.subject? = some id) :
    (service.carryOut functions request).1 = .error (.notFound id) ↔
      service.catalogue.contains id = false := by
  have sought : service.catalogue.contains id = false ↔ service.catalogue.find? id = none := by
    simp [Catalogue.contains]
  rw [sought]
  cases request with
  | get other =>
    cases subject
    cases found : service.catalogue.find? id <;>
      simp [carryOut, answering, Catalogue.get, found, Except.map]
  | update now other change =>
    cases subject
    cases found : service.catalogue.find? id with
    | none =>
      simp [carryOut, tryUpdate, Catalogue.update_of_missing found, settle, answering, Except.map]
    | some template =>
      cases accepted : (change.apply now template).validate with
      | error refusal =>
        have other : refusal ≠ .notFound id := by
          rintro rfl
          exact Template.validate_ne_notFound accepted
        simpa [carryOut, tryUpdate, Catalogue.update_of_unacceptable found accepted, settle, answering,
          Except.map] using other
      | ok _ =>
        simp [carryOut, tryUpdate, Catalogue.update_of_acceptable found accepted, settle, answering,
          Except.map]
  | delete other =>
    cases subject
    cases found : service.catalogue.find? id with
    | none =>
      simp [carryOut, tryDelete, Catalogue.delete_of_missing found, settle, answering, Except.map]
    | some template =>
      simp [carryOut, tryDelete, Catalogue.delete_of_found found, settle, answering, Except.map]
  | render draws other store =>
    cases subject
    cases found : service.catalogue.find? id <;>
      simp [carryOut, tryRender, Catalogue.get, found, answering, Except.map]
  | create _ | list | contains _ | size => cases subject

/-- How a stored template came to be: it was made under its id and with its time of making, and was
not deleted since. -/
def MadeBy (functions : Functions) (start : Service) (requests : List Request) (template : Template) :
    Prop :=
  ∃ before made after, requests = before ++ .create made :: after ∧ made.id = template.id ∧
    made.created = template.created ∧
    ((start.carryOutAll functions before).2.carryOut functions (.create made)).1 =
      .ok (.template made) ∧
    .delete template.id ∉ after

theorem carryOutAll_concat (functions : Functions) (start : Service) (requests : List Request)
    (request : Request) :
    (start.carryOutAll functions (requests ++ [request])).2 =
      ((start.carryOutAll functions requests).2.carryOut functions request).2 := by
  induction requests generalizing start with
  | nil => rfl
  | cons first rest ih => exact ih _

theorem madeBy_of_mem {start : Service} (empty : start.catalogue = .empty)
    (member : template ∈ (start.carryOutAll functions requests).2.catalogue.templates) :
    MadeBy functions start requests template := by
  induction requests using List.reverseRecOn generalizing template with
  | nil =>
    rw [carryOutAll, empty] at member
    cases member
  | append_singleton requests request ih =>
    rw [carryOutAll_concat] at member
    -- What was made before stays made unless this request deletes it.
    have earlier {old : Template} (listed : old ∈ (start.carryOutAll functions requests).2.catalogue.templates)
        (same : old.id = template.id) (created : old.created = template.created)
        (kept : request ≠ .delete template.id) : MadeBy functions start (requests ++ [request]) template := by
      obtain ⟨before, made, after, rfl, id, time, answered, undeleted⟩ := ih listed
      refine ⟨before, made, after ++ [request], by simp, id.trans same, time.trans created, answered, ?_⟩
      rw [same] at undeleted
      simpa [undeleted] using kept.symm
    have outcome := outcome_carryOut functions (start.carryOutAll functions requests).2 request
    generalize answered : ((start.carryOutAll functions requests).2.carryOut functions request).1 =
      result at outcome
    generalize ((start.carryOutAll functions requests).2.carryOut functions request).2.catalogue =
      next at outcome member
    cases outcome with
    | refused kept => exact earlier member rfl rfl (kept _)
    | absent missing =>
      refine earlier member rfl rfl ?_
      rintro ⟨⟩
      exact Catalogue.find?_eq_none_iff.mp missing template member rfl
    | looked looks =>
      refine earlier member rfl rfl ?_
      rintro rfl
      cases looks
    | created made =>
      obtain ⟨_, _, -, rfl⟩ := Catalogue.create_eq_ok_iff.mp made
      rcases List.mem_append.mp member with old | new
      · exact earlier old rfl rfl (by simp)
      · obtain rfl := List.mem_singleton.mp new
        exact ⟨requests, template, [], rfl, rfl, rfl, answered, by simp⟩
    | updated changed_ok =>
      obtain ⟨old, found, rfl, _, rfl⟩ := Catalogue.update_eq_ok_iff.mp changed_ok
      obtain ⟨other, listed, same⟩ := List.mem_map.mp member
      split at same
      · subst same
        exact earlier (Catalogue.mem_of_find? found).1 rfl rfl (by simp)
      · subst same
        exact earlier listed rfl rfl (by simp)
    | deleted removed =>
      obtain ⟨-, rfl⟩ := Catalogue.delete_eq_ok_iff.mp removed
      obtain ⟨listed, other⟩ := List.mem_filter.mp member
      refine earlier listed rfl rfl ?_
      rintro ⟨⟩
      simp at other

/-- The catalogue of a service refines a finite map from ids to templates. Beginning with nothing in it,
every row of requests has the results that it has on the map. In every state that comes of it, each
template is acceptable, is found under its own id and has the id and the time of making that it was
made with; the listing has each template once, strictly by the bytes of the ids, and its length is the
count; an id is there exactly if it can be got, and is not found exactly if it is not there. What is
refused and what only looks leaves the catalogue as it is. -/
theorem catalogue_refines_map (service : Service) (functions : Functions) (requests : List Request) :
    let start := { service with catalogue := .empty }
    let (results, final) := start.carryOutAll functions requests
    let (expected, shelf) := Shelf.carryOutAll (service.engine functions) ∅ requests
    let catalogue := final.catalogue
    results = expected ∧
    shelf.Shows catalogue ∧
    (∀ template ∈ catalogue.templates, template.validate = .ok () ∧
      catalogue.find? template.id = some template ∧ MadeBy functions start requests template) ∧
    (catalogue.list.Pairwise fun first second => Text.Before first.id second.id) ∧
    (∀ template, template ∈ catalogue.list ↔ catalogue.find? template.id = some template) ∧
    catalogue.list.length = catalogue.size ∧
    (∀ id, catalogue.contains id = true ↔ ∃ template, catalogue.get id = .ok template) ∧
    (∀ request id, request.subject? = some id →
      ((final.carryOut functions request).1 = .error (.notFound id) ↔
        catalogue.contains id = false)) ∧
    (∀ request, (request.looks = true ∨
        ∃ refusal, (final.carryOut functions request).1 = .error refusal) →
      (final.carryOut functions request).2.catalogue = catalogue) := by
  intro start
  have begun : Shelf.Shows ∅ start.catalogue := Shelf.Shows.empty
  obtain ⟨results, shows⟩ := begun.agrees_all functions requests
  refine ⟨results, shows, ?_, Catalogue.list_increasing _, fun _ => Catalogue.mem_list_iff,
    Catalogue.length_list _, ?_, fun _ _ => notFound_iff, ?_⟩
  · intro template member
    exact ⟨Catalogue.acceptable _ template member, Catalogue.find?_of_mem member,
      madeBy_of_mem rfl member⟩
  · intro id
    rw [Catalogue.contains_iff]
    unfold Catalogue.get
    cases (start.carryOutAll functions requests).2.catalogue.find? id <;> simp
  · intro request unchanged
    exact (outcome_carryOut functions _ request).unchanged unchanged

end Service

end TagWeave
