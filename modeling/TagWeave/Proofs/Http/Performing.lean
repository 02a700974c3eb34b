import TagWeave.Http.Application
import TagWeave.Proofs.Service.Operations
import TagWeave.Proofs.Text.Parts

/-! What the endpoints do. The steps of an answer are taken apart once: an endpoint that answers has
taken one of a few ways, each with the service it leaves, and one that ends in a problem leaves the
service as it was. -/
namespace TagWeave

namespace Http

theorem orRefused_eq_ok_iff {α : Type} {result : Except Refusal α} {value : α} :
    orRefused result = .ok value ↔ result = .ok value := by
  cases result with
  | error refusal => constructor <;> rintro ⟨⟩
  | ok given =>
    constructor
    · rintro ⟨⟩
      rfl
    · rintro ⟨⟩
      rfl

theorem readId_eq_ok_iff {part id : Text} : readId part = .ok id ↔ unescaped? part = some id := by
  unfold readId
  cases unescaped? part <;> simp

section

variable {α : Type} {service after : Service} {given : Except Problem α}
  {next : α → Except Problem Response × Service} {outcome : Except Refusal α × Service}
  {build : α → Response} {response : Response}

theorem attempt_eq_ok_iff :
    attempt service given next = (.ok response, after) ↔
      ∃ value, given = .ok value ∧ next value = (.ok response, after) := by
  cases given <;> simp [attempt]

theorem respond_eq_ok_iff :
    respond outcome build = (.ok response, after) ↔
      ∃ value, outcome = (.ok value, after) ∧ build value = response := by
  obtain ⟨_ | value, next⟩ := outcome
  · simp [respond, orRefused, Except.map, Except.mapError]
  · simp [respond, orRefused, Except.map, Except.mapError, and_comm]

theorem attempt_problem (kept : ∀ value, KeptOnError service (next value)) :
    KeptOnError service (attempt service given next) := by
  cases given with
  | error problem => exact fun _ _ => rfl
  | ok value => exact kept value

theorem respond_problem (kept : KeptOnError service outcome) :
    KeptOnError service (respond outcome build) := by
  obtain ⟨refusal | value, next⟩ := outcome
  · exact fun _ _ => kept refusal rfl
  · rintro _ ⟨⟩

end

theorem perform_problem (service : Service) (occasion : Occasion) (request : Request)
    (endpoint : Endpoint) : KeptOnError service (perform service occasion request endpoint) := by
  cases endpoint with
  | health | metrics | tags | listTemplates => rintro _ ⟨⟩
  | render | announce =>
    refine attempt_problem fun asked => attempt_problem fun given => ?_
    rintro _ ⟨⟩
  | createTemplate => exact attempt_problem fun template => respond_problem (service.tryCreate_refused _)
  | getTemplate part => exact attempt_problem fun id => respond_problem fun _ _ => rfl
  | updateTemplate part =>
    exact attempt_problem fun id => attempt_problem fun change =>
      respond_problem (service.tryUpdate_refused _ _ _)
  | deleteTemplate part =>
    exact attempt_problem fun id => respond_problem (service.tryDelete_refused _)
  | renderTemplate part =>
    exact attempt_problem fun id => attempt_problem fun tags => attempt_problem fun store =>
      respond_problem (service.tryRender_refused _ _ _ _)

def Endpoint.tells : Endpoint → Bool
  | .health | .tags | .listTemplates | .getTemplate _ => true
  | _ => false

/-- The ways to an answer of an endpoint, each with the service that it leaves. -/
inductive Performed (service : Service) (occasion : Occasion) (request : Request) :
    Endpoint → Response → Service → Prop where
  | told {endpoint : Endpoint} {response : Response} (tells : endpoint.tells = true)
      (status : response.status = 200) : Performed service occasion request endpoint response service
  | sampled {response : Response} (status : response.status = 200) :
      Performed service occasion request .metrics response service.sample
  | rendered {response : Response} {template : Text} {store : Store}
      (status : response.status = 200) :
      Performed service occasion request .render response
        (service.run builtinFunctions occasion.draws template store).2
  | announced {response : Response} {message : Option Text} {announcement : Announcement}
      (status : response.status = 200) :
      Performed service occasion request .announce response
        (service.announce builtinFunctions occasion.draws message announcement).2
  | created {response : Response} {template made : Template} {after : Service}
      (status : response.status = 201)
      (read : request.read service.settings.bodyLimit (.record Template.createFields)
        (Template.ofCreateRequest occasion.now) = .ok template)
      (made_ok : service.tryCreate template = (.ok made, after)) :
      Performed service occasion request .createTemplate response after
  | updated {response : Response} {part id : Text} {change : Template.Update} {changed : Template}
      {after : Service} (status : response.status = 200) (named : unescaped? part = some id)
      (changed_ok : service.tryUpdate occasion.now id change = (.ok changed, after)) :
      Performed service occasion request (.updateTemplate part) response after
  | deleted {response : Response} {part id : Text} {after : Service}
      (status : response.status = 204) (named : unescaped? part = some id)
      (deleted_ok : service.tryDelete id = (.ok (), after)) :
      Performed service occasion request (.deleteTemplate part) response after
  | renderedStored {response : Response} {part id : Text} {store : Store} {report : Report}
      {after : Service} (status : response.status = 200) (named : unescaped? part = some id)
      (rendered_ok :
        service.tryRender builtinFunctions occasion.draws id store = (.ok report, after)) :
      Performed service occasion request (.renderTemplate part) response after

variable {service after : Service} {occasion : Occasion} {request : Request} {endpoint : Endpoint}
  {response : Response} {route : Route} {path part : Text}

theorem performed_of_ok (answered : perform service occasion request endpoint = (.ok response, after)) :
    Performed service occasion request endpoint response after := by
  cases endpoint with
  | health =>
    cases answered
    exact .told rfl rfl
  | metrics =>
    cases answered
    exact .sampled rfl
  | tags =>
    cases answered
    exact .told rfl rfl
  | render =>
    simp only [perform, attempt_eq_ok_iff] at answered
    obtain ⟨⟨template, tags⟩, -, store, -, answered⟩ := answered
    cases answered
    exact .rendered rfl
  | announce =>
    simp only [perform, attempt_eq_ok_iff] at answered
    obtain ⟨⟨template, id, announcement⟩, -, message, -, answered⟩ := answered
    cases answered
    exact .announced rfl
  | listTemplates =>
    cases answered
    exact .told rfl rfl
  | createTemplate =>
    simp only [perform, attempt_eq_ok_iff, respond_eq_ok_iff] at answered
    obtain ⟨template, read, made, made_ok, rfl⟩ := answered
    exact .created rfl read made_ok
  | getTemplate part =>
    simp only [perform, attempt_eq_ok_iff, respond_eq_ok_iff] at answered
    obtain ⟨id, -, template, found, rfl⟩ := answered
    obtain rfl : service = after := congrArg Prod.snd found
    exact .told rfl rfl
  | updateTemplate part =>
    simp only [perform, attempt_eq_ok_iff, respond_eq_ok_iff, readId_eq_ok_iff] at answered
    obtain ⟨id, named, change, -, changed, changed_ok, rfl⟩ := answered
    exact .updated rfl named changed_ok
  | deleteTemplate part =>
    simp only [perform, attempt_eq_ok_iff, respond_eq_ok_iff, readId_eq_ok_iff] at answered
    obtain ⟨id, named, ⟨⟩, deleted_ok, rfl⟩ := answered
    exact .deleted rfl named deleted_ok
  | renderTemplate part =>
    simp only [perform, attempt_eq_ok_iff, respond_eq_ok_iff, readId_eq_ok_iff] at answered
    obtain ⟨id, named, tags, -, store, -, report, rendered_ok, rfl⟩ := answered
    exact .renderedStored rfl named rendered_ok

theorem Route.endpoint?_eq_createTemplate_iff {method : Method} :
    route.endpoint? method = some .createTemplate ↔ route = .templates ∧ method = .post := by
  cases route <;> cases method <;> simp [endpoint?]

theorem Route.endpoint?_eq_updateTemplate_iff {method : Method} :
    route.endpoint? method = some (.updateTemplate part) ↔ route = .template part ∧ method = .put := by
  cases route <;> cases method <;> simp [endpoint?]

theorem Route.endpoint?_eq_deleteTemplate_iff {method : Method} :
    route.endpoint? method = some (.deleteTemplate part) ↔
      route = .template part ∧ method = .delete := by
  cases route <;> cases method <;> simp [endpoint?]

def Route.parts : Route → List Text
  | .health => ["health".toList]
  | .metrics => ["metrics".toList]
  | .render => ["api".toList, "v1".toList, "render".toList]
  | .tags => ["api".toList, "v1".toList, "tags".toList]
  | .announce => ["api".toList, "v1".toList, "level-up".toList, "render".toList]
  | .templates => ["api".toList, "v1".toList, "templates".toList]
  | .template id => ["api".toList, "v1".toList, "templates".toList, id]
  | .templateRender id => ["api".toList, "v1".toList, "templates".toList, id, "render".toList]

theorem Route.pieces_of_ofPath? (found : Route.ofPath? path = some route) :
    Text.pieces '/' path = [] :: route.parts := by
  revert found
  fun_cases Route.ofPath? path
  all_goals rintro ⟨⟩
  all_goals simp_all [parts]

theorem Route.path_of_templates (found : Route.ofPath? path = some .templates) :
    path = "/api/v1/templates".toList := by
  rw [← Text.joined_pieces '/' path, pieces_of_ofPath? found]
  rfl

/-- The open part of a path is all that follows, and has no slash in it. -/
theorem Route.path_of_template (found : Route.ofPath? path = some (.template part)) :
    path = "/api/v1/templates/".toList ++ part ∧ '/' ∉ part := by
  have pieces := pieces_of_ofPath? found
  constructor
  · rw [← Text.joined_pieces '/' path, pieces]
    rfl
  · apply Text.not_mem_of_mem_pieces
    rw [pieces]
    simp [parts]

theorem Route.pieces_templates (rest : Text) :
    Text.pieces '/' ("/api/v1/templates/".toList ++ rest) =
      [] :: "api".toList :: "v1".toList :: "templates".toList :: Text.pieces '/' rest := by
  have form : "/api/v1/templates/".toList ++ rest =
      [] ++ '/' :: ("api".toList ++ '/' :: ("v1".toList ++ '/' ::
        ("templates".toList ++ '/' :: rest))) := by
    simp
  rw [form, Text.pieces_append_mark (by decide), Text.pieces_append_mark (by decide),
    Text.pieces_append_mark (by decide), Text.pieces_append_mark (by decide)]

theorem Route.ofPath?_template (named : part ≠ []) (whole : '/' ∉ part) :
    Route.ofPath? ("/api/v1/templates/".toList ++ part) = some (.template part) := by
  unfold Route.ofPath?
  rw [pieces_templates, Text.pieces_of_not_mem whole]
  simp [named]

theorem Route.ofPath?_templateRender (named : part ≠ []) (whole : '/' ∉ part) :
    Route.ofPath? ("/api/v1/templates/".toList ++ part ++ "/render".toList) =
      some (.templateRender part) := by
  have pieces : Text.pieces '/' (part ++ "/render".toList) = [part, "render".toList] := by
    change Text.pieces '/' (part ++ '/' :: "render".toList) = _
    rw [Text.pieces_append_mark whole, Text.pieces_of_not_mem (by decide)]
  unfold Route.ofPath?
  rw [List.append_assoc, pieces_templates, pieces]
  simp [named]

/-- The headers that every answer has, and no body for the head of an answer. -/
def dressed (settings : Settings) (request : Request) (response : Response) : Response :=
  let response := (response.withHeader "allow" (allowedInstead? request)).withHeader
    "access-control-allow-origin" (openTo? settings request)
  if request.method = .head then response.bare else response

theorem handle_eq_dressed (service : Service) (occasion : Occasion) (request : Request) :
    handle service occasion request =
      (dressed (answer service occasion request).2.settings request
        (answer service occasion request).1, (answer service occasion request).2) := rfl

theorem dressed_status (settings : Settings) (request : Request) (response : Response) :
    (dressed settings request response).status = response.status := by
  unfold dressed
  dsimp only
  split <;> rfl

/-- The headers that every answer has do not touch its status. -/
theorem handle_status (service : Service) (occasion : Occasion) (request : Request) :
    (handle service occasion request).1.status = (answer service occasion request).1.status := by
  rw [handle_eq_dressed, dressed_status]

theorem handle_service (service : Service) (occasion : Occasion) (request : Request) :
    (handle service occasion request).2 = (answer service occasion request).2 := rfl

/-- A request that is let through to its endpoint, if it asks for one: it has the key, where one is
asked for, and does not state too great a length. -/
structure Admitted (settings : Settings) (request : Request) : Prop where
  opened : keyFailure? settings request = none
  short : request.statesTooLong settings.bodyLimit = false

theorem Route.endpoint?_options (route : Route) : route.endpoint? .options = none := by
  cases route <;> rfl

theorem answer_of_admitted (admitted : Admitted service.settings request)
    (found : Route.ofPath? request.path = some route)
    (allowed : route.endpoint? request.method = some endpoint) :
    (answer service occasion request).1 = reply (perform service occasion request endpoint).1 := by
  have method : request.method ≠ .options := by
    intro options
    rw [options, Route.endpoint?_options] at allowed
    cases allowed
  have through : guardFailure? service.settings request route = none := by
    rw [guardFailure?, admitted.opened, ite_self]
  unfold answer
  rw [if_neg method, if_neg (by simp [admitted.short]), found]
  simp only [atRoute, through, allowed]

/-- An endpoint answers a request, or the service is left as it was. -/
theorem handle_cases (service : Service) (occasion : Occasion) (request : Request) :
    (handle service occasion request).2 = service ∨
      ∃ route endpoint response, Route.ofPath? request.path = some route ∧
        route.endpoint? request.method = some endpoint ∧
        Performed service occasion request endpoint response (handle service occasion request).2 ∧
        (handle service occasion request).1.status = response.status := by
  rw [handle_status, handle_service]
  unfold answer
  split
  · exact .inl rfl
  split
  · exact .inl rfl
  split
  · exact .inl rfl
  rename_i route found
  unfold atRoute
  split
  · exact .inl rfl
  split
  · exact .inl rfl
  rename_i endpoint allowed
  rcases answered : perform service occasion request endpoint with ⟨problem | response, after⟩
  · left
    have kept := perform_problem service occasion request endpoint problem
    rw [answered] at kept
    exact kept rfl
  · exact .inr ⟨route, endpoint, response, found, allowed, performed_of_ok answered, rfl⟩

end Http

end TagWeave
