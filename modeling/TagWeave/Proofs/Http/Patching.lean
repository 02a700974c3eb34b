import TagWeave.Proofs.Http.Accounts

/-! Partial updates. A body says nothing of a field, or `null`, or gives a text. For a name and a
content `null` is as good as nothing, but a description it takes away. Two updates one after the other
leave the template that one update leaves whose body is merged from theirs. -/
namespace TagWeave

variable {id : Text}

/-- The change that does what two changes do one after the other. -/
def Template.Update.andThen (first second : Template.Update) : Template.Update :=
  ⟨second.name.or first.name, second.content.or first.content,
   second.description.or first.description⟩

/-- The moment of the first change is overwritten by the second. -/
theorem Template.Update.apply_andThen (first second : Template.Update) (now later : Moment)
    (template : Template) :
    (first.andThen second).apply later template = second.apply later (first.apply now template) := by
  simp only [andThen, apply, Option.getD_or]

/-- What makes a template acceptable does not depend on when it was changed. -/
theorem Template.validate_updated (template : Template) (moment : Moment) :
    { template with updated := moment }.validate = template.validate := rfl

/-- Where two changes are accepted one after the other, their composition is accepted at any moment,
and only the moment of the change differs. -/
theorem Catalogue.update_andThen {catalogue between after : Catalogue}
    {first second : Template.Update} {now later : Moment} {changed final : Template}
    (once : catalogue.update now id first = (.ok changed, between))
    (twice : between.update later id second = (.ok final, after)) (moment : Moment) :
    ∃ last, catalogue.update moment id (first.andThen second) =
      (.ok { final with updated := moment }, last) := by
  have here : between.find? id = some changed := by rw [find?_update once, if_pos rfl]
  obtain ⟨template, found, rfl, -⟩ := update_eq_ok_iff.mp once
  obtain ⟨stored, kept, rfl, accepted, -⟩ := update_eq_ok_iff.mp twice
  obtain rfl : first.apply now template = stored := Option.some.inj (here.symm.trans kept)
  have composed : (first.andThen second).apply moment template =
      { second.apply later (first.apply now template) with updated := moment } :=
    Template.Update.apply_andThen first second now moment template
  refine ⟨_, update_eq_ok_iff.mpr ⟨template, found, composed.symm, ?_, rfl⟩⟩
  rw [Template.validate_updated, accepted]

namespace Http

/-- What a body says of the fields of a template: nothing, `null` or a text. -/
structure Patch where
  name : Option (Option Text)
  content : Option (Option Text)
  description : Option (Option Text)
  deriving DecidableEq, Repr

namespace Patch

/-- What is said last, unless that is nothing or `null`. -/
def unlessNull (earlier later : Option (Option Text)) : Option (Option Text) :=
  match later with
  | some (some text) => some (some text)
  | some none | none => earlier

/-- A `null` in the later body leaves a name or a content to the earlier one, but stands as the
description. -/
def merge (earlier later : Patch) : Patch :=
  ⟨unlessNull earlier.name later.name, unlessNull earlier.content later.content,
   later.description.or earlier.description⟩

def change (patch : Patch) : Template.Update :=
  ⟨patch.name.join, patch.content.join, patch.description⟩

/-- What stands in place of a field of text says, unless it is of another type. -/
def said? : Option Draft → Option (Option (Option Text))
  | none => some none
  | some .null => some (some none)
  | some (.text (some text)) => some (some (some text))
  | some _ => none

/-- What a body says, if it is an object whose fields are of the right types. Members of other names
do not matter. -/
def ofDraft? (draft : Draft) : Option Patch :=
  match draft with
  | .object _ _ => do
    let given (name : String) := Entries.find? name.toList (draft.fieldValues Template.Update.fields)
    return ⟨← said? (given "name"), ← said? (given "content"), ← said? (given "description")⟩
  | _ => none

/-- What an accepted update with this body makes of a template, the moment of the change apart. -/
structure Amends (patch : Patch) (before after : Template) : Prop where
  id : after.id = before.id
  name : after.name = patch.name.join.getD before.name
  content : after.content = patch.content.join.getD before.content
  description : after.description = patch.description.getD before.description
  created : after.created = before.created

theorem join_unlessNull (earlier later : Option (Option Text)) :
    (unlessNull earlier later).join = later.join.or earlier.join := by
  rcases later with _ | _ | text <;> rfl

theorem change_merge (earlier later : Patch) :
    (earlier.merge later).change = earlier.change.andThen later.change := by
  simp only [merge, change, Template.Update.andThen, join_unlessNull]

theorem amends_change (patch : Patch) (now : Moment) (template : Template) :
    patch.Amends template (patch.change.apply now template) := ⟨rfl, rfl, rfl, rfl, rfl⟩

variable {given : Option Draft} {said : Option (Option Text)} {draft : Draft} {patch : Patch}

theorem text?_of_said (told : said? given = some said) : (given.getD .null).text? = said.join := by
  revert told
  fun_cases said? given <;> rintro ⟨⟩ <;> rfl

theorem isSome_of_said (told : said? given = some said) : given.isSome = said.isSome := by
  revert told
  fun_cases said? given <;> rintro ⟨⟩ <;> rfl

/-- The update that is read of a body is the change of its patch. -/
theorem change_of_ofDraft? (told : ofDraft? draft = some patch) :
    Template.Update.ofDraft draft = patch.change := by
  unfold ofDraft? at told
  split at told
  · simp only [Option.bind_eq_bind, Option.bind_eq_some_iff] at told
    obtain ⟨name, name_said, content, content_said, description, description_said, same⟩ := told
    cases same
    unfold Template.Update.ofDraft Draft.field Draft.gives
    rw [text?_of_said name_said, text?_of_said content_said, text?_of_said description_said,
      isSome_of_said description_said]
    cases description <;> rfl
  · cases told

end Patch

variable {service : Service} {occasion : Occasion} {request : Request} {patch : Patch}

/-- A request to update the template of an id, with a JSON object that says what a patch says. -/
structure Puts (request : Request) (id : Text) (patch : Patch) : Prop where
  method : request.method = .put
  path : ∃ part, part ≠ [] ∧ '/' ∉ part ∧ unescaped? part = some id ∧
    request.path = "/api/v1/templates/".toList ++ part
  body : Patch.ofDraft? (Draft.ofText request.body).1 = some patch

theorem eq_use_of_read {α : Type} {limit : Nat} {shape : Shape} {use : Draft → α} {value : α}
    (read : request.read limit shape use = .ok value) : value = use (Draft.ofText request.body).1 := by
  unfold Request.read at read
  split at read
  · cases read
  split at read
  · cases read
  split at read
  · rename_i given readable
    cases read
    simp only [Draft.readText, Draft.readAs, bind_eq_ok_iff] at readable
    obtain ⟨used, ⟨-, -, same⟩, rest⟩ := readable
    cases same
    split at rest
    · cases rest
      rfl
    · cases rest
  · cases read

theorem Puts.endpoint? (puts : Puts request id patch) :
    ∃ part, unescaped? part = some id ∧ request.endpoint? = some (.updateTemplate part) := by
  obtain ⟨part, named, whole, spelled, path⟩ := puts.path
  refine ⟨part, spelled, ?_⟩
  rw [Request.endpoint?, path, Route.ofPath?_template named whole, Option.bind_some, puts.method]
  rfl

theorem Puts.change (puts : Puts request id patch) {limit : Nat} {change : Template.Update}
    (read : request.read limit (.record Template.Update.fields) Template.Update.ofDraft =
      .ok change) : change = patch.change := by
  rw [eq_use_of_read read, Patch.change_of_ofDraft? puts.body]

theorem Puts.catalogue_update (puts : Puts request id patch)
    (accepted : (handle service occasion request).1.status = 200) :
    ∃ changed, service.catalogue.update occasion.now id patch.change =
      (.ok changed, (handle service occasion request).2.catalogue) := by
  have granted : (handle service occasion request).1.Grants := by
    rw [Response.Grants, accepted]
    decide
  obtain ⟨part, spelled, named⟩ := puts.endpoint?
  obtain ⟨response, answered⟩ := perform_of_grants granted named
  simp only [perform, attempt_eq_ok_iff, respond_eq_ok_iff, readId_eq_ok_iff, spelled] at answered
  obtain ⟨_, same, change, read, changed, changed_ok, -⟩ := answered
  obtain rfl := Option.some.inj same
  obtain rfl := puts.change read
  exact ⟨changed, Service.catalogue_tryUpdate changed_ok⟩

theorem Puts.unchanged (puts : Puts request id patch)
    (refused : (handle service occasion request).1.status ≠ 200) :
    (handle service occasion request).2 = service := by
  rcases handle_cases service occasion request with
    same | ⟨route, endpoint, response, found, allowed, performed, status⟩
  · exact same
  · obtain ⟨part, -, named⟩ := puts.endpoint?
    rw [Request.endpoint?, found, Option.bind_some, allowed] at named
    obtain rfl := Option.some.inj named
    generalize (handle service occasion request).2 = left at performed ⊢
    cases performed with
    | told tells _ => cases tells
    | updated granted _ _ => exact absurd (status.trans granted) refused

/-- What the catalogue accepts is accepted, if the request comes as far as that. -/
theorem Puts.accepted {change : Template.Update} {changed : Template} {after : Catalogue}
    (puts : Puts request id patch) (admitted : Admitted service.settings request)
    (read : request.read service.settings.bodyLimit (.record Template.Update.fields)
      Template.Update.ofDraft = .ok change)
    (changed_ok : service.catalogue.update occasion.now id patch.change = (.ok changed, after)) :
    (handle service occasion request).1.status = 200 := by
  obtain ⟨part, spelled, named⟩ := puts.endpoint?
  obtain ⟨route, found, allowed⟩ := Option.bind_eq_some_iff.mp named
  obtain rfl := puts.change read
  have identified : readId part = .ok id := readId_eq_ok_iff.mpr spelled
  rw [handle_status, answer_of_admitted admitted found allowed]
  simp only [perform, identified, read, attempt, Service.tryUpdate, changed_ok]
  rfl

/-- Partial updates compose, in any state of the service. An accepted update leaves the id and the
creation of the template as they were, a name or a content too unless the body gives a text, and a
description unless the body names it; a refused one leaves the whole service as it was. Two accepted
updates leave the template that an accepted update with the merged body leaves, the moment of the
change apart, and a merged body that is let through and can be read is accepted. -/
theorem updates_compose {first second single : Request} {earlier later : Patch}
    (puts_first : Puts first id earlier) (puts_second : Puts second id later)
    (puts_single : Puts single id (earlier.merge later)) (service : Service)
    (occasion next other : Occasion) :
    let once := handle service occasion first
    let twice := handle once.2 next second
    let both := handle service other single
    (once.1.status = 200 → ∃ before after, service.catalogue.find? id = some before ∧
      once.2.catalogue.find? id = some after ∧ earlier.Amends before after) ∧
    (once.1.status ≠ 200 → once.2 = service) ∧
    (once.1.status = 200 → twice.1.status = 200 →
      (both.1.status = 200 → ∃ template, twice.2.catalogue.find? id = some template ∧
        both.2.catalogue.find? id = some { template with updated := other.now }) ∧
      (Admitted service.settings single →
        (∃ change, single.read service.settings.bodyLimit (.record Template.Update.fields)
          Template.Update.ofDraft = .ok change) → both.1.status = 200)) := by
  intro once twice both
  refine ⟨?amended, puts_first.unchanged, ?composed⟩
  case amended =>
    intro accepted
    obtain ⟨changed, changed_ok⟩ := puts_first.catalogue_update accepted
    have kept := Catalogue.find?_update changed_ok id
    rw [if_pos rfl] at kept
    obtain ⟨template, found, rfl, -⟩ := Catalogue.update_eq_ok_iff.mp changed_ok
    exact ⟨template, _, found, kept, earlier.amends_change _ _⟩
  case composed =>
    intro first_accepted second_accepted
    obtain ⟨changed, first_ok⟩ := puts_first.catalogue_update first_accepted
    obtain ⟨template, second_ok⟩ := puts_second.catalogue_update second_accepted
    obtain ⟨last, composed⟩ := Catalogue.update_andThen first_ok second_ok other.now
    rw [← Patch.change_merge] at composed
    constructor
    · intro accepted
      obtain ⟨same, single_ok⟩ := puts_single.catalogue_update accepted
      obtain ⟨⟨⟩, -⟩ := Prod.mk.inj (composed.symm.trans single_ok)
      refine ⟨template, ?_, ?_⟩
      · rw [Catalogue.find?_update second_ok, if_pos rfl]
      · rw [Catalogue.find?_update single_ok, if_pos rfl]
    · rintro admitted ⟨change, read⟩
      exact puts_single.accepted admitted read composed

/-- A new name and no description, then a new content and `null` for the name, or all of it in one
body. -/
theorem updates_compose_greeting :
    let template : Template :=
      ⟨"hello".toList, "Hello".toList, "Hi".toList, some "Short".toList, ⟨0, 0⟩, ⟨0, 0⟩⟩
    let service := { Service.start .standard ⟨0, 0⟩ with
      catalogue := (Catalogue.empty.create template).2 }
    let during (seconds : Int) : Occasion := ⟨⟨seconds, 0⟩, fun _ => ⟨0, by decide⟩⟩
    let put (body : String) : Request := ⟨.put, "/api/v1/templates/hello".toList,
      [("content-type".toList, "application/json".toList)], body.braced⟩
    let first := put "⟨\"name\":\"Ave\",\"description\":null⟩"
    let second := put "⟨\"content\":\"Salve\",\"name\":null⟩"
    let single := put "⟨\"name\":\"Ave\",\"content\":\"Salve\",\"description\":null⟩"
    let once := handle service (during 1) first
    let twice := handle once.2 (during 2) second
    let both := handle service (during 3) single
    once.1.status = 200 ∧ twice.1.status = 200 ∧ both.1.status = 200 ∧
      ∃ template, twice.2.catalogue.find? "hello".toList = some template ∧
        both.2.catalogue.find? "hello".toList = some { template with updated := ⟨3, 0⟩ } := by
  intro template service during put first second single
  have spelled : unescaped? "hello".toList = some "hello".toList := by decide +kernel
  let earlier : Patch := ⟨some (some "Ave".toList), none, some none⟩
  let later : Patch := ⟨some none, some (some "Salve".toList), none⟩
  have puts_first : Puts first "hello".toList earlier :=
    ⟨rfl, ⟨"hello".toList, by decide, by decide, spelled, by decide +kernel⟩, by decide +kernel⟩
  have puts_second : Puts second "hello".toList later :=
    ⟨rfl, ⟨"hello".toList, by decide, by decide, spelled, by decide +kernel⟩, by decide +kernel⟩
  have puts_single : Puts single "hello".toList (earlier.merge later) :=
    ⟨rfl, ⟨"hello".toList, by decide, by decide, spelled, by decide +kernel⟩, by decide +kernel⟩
  obtain ⟨-, -, compose⟩ := updates_compose puts_first puts_second puts_single service (during 1)
    (during 2) (during 3)
  have once : (handle service (during 1) first).1.status = 200 := by decide +kernel
  have twice : (handle (handle service (during 1) first).2 (during 2) second).1.status = 200 := by
    decide +kernel
  have both : (handle service (during 3) single).1.status = 200 := by decide +kernel
  exact ⟨once, twice, both, (compose once twice).1 both⟩

end Http

end TagWeave
