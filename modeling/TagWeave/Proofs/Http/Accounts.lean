import TagWeave.Proofs.Http.Rendering
import TagWeave.Proofs.Service.Accounts

/-! What the meters of a service tell about the requests that it answered. The deed of a request is
told by the request, by whether it was granted, and by the run that its endpoint asks for; the meters
move by that deed and by nothing else, whatever mixture of requests comes. -/
namespace TagWeave

namespace Http

def inlineRendering (service : Service) (request : Request) : Except Problem (Text × Store) := do
  let (template, tags) ← request.read service.settings.bodyLimit (.record renderFields) renderingOf
  let store ← seed tags
  return (template, store)

def announcedRendering (service : Service) (request : Request) : Except Problem (Text × Store) := do
  let (template, id, announcement) ← request.read service.settings.bodyLimit
    (.record announceFields) announcingOf
  let message ← messageFor service template id
  return (Announcement.messageOf message, announcement.toStore)

def storedRendering (service : Service) (request : Request) (part : Text) :
    Except Problem (Text × Store) := do
  let id ← readId part
  let tags ← request.read service.settings.bodyLimit (.record storedRenderFields)
    (tagsOf storedRenderFields)
  let store ← seed tags
  let template ← orRefused (service.catalogue.get id)
  return (template.content, store)

/-- What is done at an endpoint that grants what it is asked. -/
def deedAt? (service : Service) (occasion : Occasion) (request : Request) : Endpoint → Option Deed
  | .render => (inlineRendering service request).toOption.map fun (text, store) =>
      .ran (service.reportOf occasion.draws text store)
  | .announce => (announcedRendering service request).toOption.map fun (text, store) =>
      .ran (service.reportOf occasion.draws text store)
  | .renderTemplate part => (storedRendering service request part).toOption.map fun (text, store) =>
      .rendered (service.reportOf occasion.draws text store)
  | .createTemplate => some .created
  | .updateTemplate _ => some .updated
  | .deleteTemplate _ => some .deleted
  | .metrics => some .sampled
  | .health | .tags | .listTemplates | .getTemplate _ => none

/-- The endpoint that a request names by its path and its method. -/
def Request.endpoint? (request : Request) : Option Endpoint :=
  (Route.ofPath? request.path).bind fun route => route.endpoint? request.method

instance (response : Response) : Decidable response.Grants :=
  inferInstanceAs (Decidable (200 ≤ response.status ∧ response.status ≤ 299))

def deed? (service : Service) (occasion : Occasion) (request : Request) : Option Deed :=
  if (handle service occasion request).1.Grants then
    request.endpoint?.bind (deedAt? service occasion request)
  else none

variable {service after : Service} {occasion : Occasion} {request : Request} {endpoint : Endpoint}
  {response : Response} {part : Text}

theorem inlineRendering_of_ok
    (answered : perform service occasion request .render = (.ok response, after)) :
    ∃ text store, inlineRendering service request = .ok (text, store) ∧
      after = (service.run builtinFunctions occasion.draws text store).2 := by
  simp only [perform, attempt_eq_ok_iff] at answered
  obtain ⟨⟨template, tags⟩, read, store, seeded, answered⟩ := answered
  cases answered
  refine ⟨template, store, ?_, rfl⟩
  simp only [inlineRendering, bind_eq_ok_iff]
  exact ⟨_, read, store, seeded, rfl⟩

theorem announcedRendering_of_ok
    (answered : perform service occasion request .announce = (.ok response, after)) :
    ∃ text store, announcedRendering service request = .ok (text, store) ∧
      after = (service.run builtinFunctions occasion.draws text store).2 := by
  simp only [perform, attempt_eq_ok_iff] at answered
  obtain ⟨⟨template, id, announcement⟩, read, message, named, answered⟩ := answered
  cases answered
  refine ⟨_, _, ?_, rfl⟩
  refine bind_eq_ok_iff.mpr ⟨_, read, ?_⟩
  exact bind_eq_ok_iff.mpr ⟨message, named, rfl⟩

theorem storedRendering_of_ok
    (answered : perform service occasion request (.renderTemplate part) = (.ok response, after)) :
    ∃ id text store, storedRendering service request part = .ok (text, store) ∧
      service.tryRender builtinFunctions occasion.draws id store =
        (.ok (service.reportOf occasion.draws text store), after) := by
  simp only [perform, attempt_eq_ok_iff, respond_eq_ok_iff] at answered
  obtain ⟨id, named, tags, read, store, seeded, report, rendered_ok, -⟩ := answered
  obtain ⟨template, found, rfl, -⟩ := Service.tryRender_eq_ok_iff.mp rendered_ok
  refine ⟨id, template.content, store, ?_, rendered_ok⟩
  simp only [storedRendering, bind_eq_ok_iff, orRefused_eq_ok_iff]
  exact ⟨id, named, tags, read, store, seeded, template, found, rfl⟩

/-- An endpoint that answers has done its deed. -/
theorem accounts_perform
    (answered : perform service occasion request endpoint = (.ok response, after)) :
    service.Accounts (deedAt? service occasion request endpoint).toList after := by
  have performed := performed_of_ok answered
  cases endpoint with
  | health | tags | listTemplates | getTemplate part =>
    cases performed with
    | told tells status => exact .refl service
  | metrics =>
    cases performed with
    | told tells status => cases tells
    | sampled status => exact Service.accounts_sample
  | render =>
    obtain ⟨text, store, asked, rfl⟩ := inlineRendering_of_ok answered
    rw [deedAt?, asked]
    exact Service.accounts_run
  | announce =>
    obtain ⟨text, store, asked, rfl⟩ := announcedRendering_of_ok answered
    rw [deedAt?, asked]
    exact Service.accounts_run
  | renderTemplate part =>
    obtain ⟨id, text, store, asked, rendered_ok⟩ := storedRendering_of_ok answered
    rw [deedAt?, asked]
    exact Service.accounts_tryRender rendered_ok
  | createTemplate =>
    cases performed with
    | told tells status => cases tells
    | created status read made_ok => exact Service.accounts_tryCreate made_ok
  | updateTemplate part =>
    cases performed with
    | told tells status => cases tells
    | updated status named changed_ok => exact Service.accounts_tryUpdate changed_ok
  | deleteTemplate part =>
    cases performed with
    | told tells status => cases tells
    | deleted status named deleted_ok => exact Service.accounts_tryDelete deleted_ok

theorem Problem.status_ge (problem : Problem) : 400 ≤ problem.response.status := by
  cases problem with
  | failed failure =>
    cases failure with
    | refused refusal => cases refusal <;> exact Nat.le_of_ble_eq_true rfl
    | unauthorized _ | invalid _ | notFound _ | internal _ => exact Nat.le_of_ble_eq_true rfl
  | body fault => cases fault <;> exact Nat.le_of_ble_eq_true rfl
  | unreadablePath | mediaType | tooLong => exact Nat.le_of_ble_eq_true rfl

theorem Problem.not_grants (problem : Problem) : ¬ problem.response.Grants := by
  intro grants
  have status := problem.status_ge
  have low := grants.2
  omega

theorem announcedTooLong_not_grants : ¬ Problem.announcedTooLong.Grants := by decide

/-- A granted request that names an endpoint was answered by the endpoint. -/
theorem perform_of_grants (granted : (handle service occasion request).1.Grants)
    (named : request.endpoint? = some endpoint) :
    ∃ response,
      perform service occasion request endpoint =
        (.ok response, (handle service occasion request).2) := by
  obtain ⟨route, found, allowed⟩ := Option.bind_eq_some_iff.mp named
  have method : request.method ≠ .options := by
    intro options
    rw [options, Route.endpoint?_options] at allowed
    cases allowed
  have granted : (answer service occasion request).1.Grants := by
    rwa [Response.Grants, handle_status] at granted
  rw [handle_service]
  unfold answer at granted ⊢
  rw [if_neg method] at granted ⊢
  split at granted
  · exact absurd granted announcedTooLong_not_grants
  rename_i short
  rw [if_neg short]
  simp only [found] at granted ⊢
  unfold atRoute at granted ⊢
  split at granted
  · exact absurd granted (Problem.not_grants _)
  simp only [allowed] at granted ⊢
  rcases answered : perform service occasion request endpoint with ⟨problem | response, after⟩
  · rw [answered] at granted
    exact absurd granted problem.not_grants
  · exact ⟨response, rfl⟩

theorem unchanged_of_unnamed (unnamed : request.endpoint? = none) :
    (handle service occasion request).2 = service := by
  rcases handle_cases service occasion request with
    same | ⟨route, endpoint, response, found, allowed, -, -⟩
  · exact same
  · rw [Request.endpoint?, found, Option.bind_some, allowed] at unnamed
    cases unnamed

theorem accounts_handle (service : Service) (occasion : Occasion) (request : Request) :
    service.Accounts (deed? service occasion request).toList (handle service occasion request).2 := by
  unfold deed?
  split
  · rename_i granted
    cases named : request.endpoint? with
    | none =>
      rw [unchanged_of_unnamed named]
      exact .refl service
    | some endpoint =>
      obtain ⟨response, answered⟩ := perform_of_grants granted named
      exact accounts_perform answered
  · rename_i refused
    rw [unchanged_of_refused refused]
    exact .refl service

end Http

/-- What reaches a service: a request from outside, or an operation on its catalogue. -/
inductive Service.Event where
  | outside (occasion : Occasion) (request : Http.Request)
  | inside (request : Catalogue.Request)

namespace Service

def Event.after (functions : Functions) (service : Service) : Event → Service
  | .outside occasion request => (Http.handle service occasion request).2
  | .inside request => (service.carryOut functions request).2

def Event.deed? (functions : Functions) (service : Service) : Event → Option Deed
  | .outside occasion request => Http.deed? service occasion request
  | .inside request => Catalogue.deed? request (service.carryOut functions request).1

def Event.Refused (functions : Functions) (service : Service) : Event → Prop
  | .outside occasion request => ¬ (Http.handle service occasion request).1.Grants
  | .inside request => ∃ refusal, (service.carryOut functions request).1 = .error refusal

def afterAll (functions : Functions) : Service → List Event → Service
  | service, [] => service
  | service, event :: rest => afterAll functions (event.after functions service) rest

def deedsOf (functions : Functions) : Service → List Event → List Deed
  | _, [] => []
  | service, event :: rest =>
    (event.deed? functions service).toList ++ deedsOf functions (event.after functions service) rest

variable {service : Service} {functions : Functions} {event : Event}

theorem accounts_event (functions : Functions) (service : Service) (event : Event) :
    service.Accounts (event.deed? functions service).toList (event.after functions service) := by
  cases event with
  | outside occasion request => exact Http.accounts_handle service occasion request
  | inside request => exact accounts_carryOut functions service request

theorem accounts_events (functions : Functions) (service : Service) (events : List Event) :
    service.Accounts (service.deedsOf functions events) (service.afterAll functions events) := by
  induction events generalizing service with
  | nil => exact .refl service
  | cons event rest ih => exact (accounts_event functions service event).trans (ih _)

theorem Event.unchanged_of_refused (refused : event.Refused functions service) :
    event.after functions service = service := by
  cases event with
  | outside occasion request => exact Http.unchanged_of_refused refused
  | inside request =>
    obtain ⟨refusal, refused⟩ := refused
    exact carryOut_refused functions service request refusal refused

/-- The meters balance. Take a service that was just started, with whatever its meters showed then,
and any requests and operations on its catalogue. What was counted since then agrees at every moment
with what was done: the renderings of all outcomes together, the observations of evaluations and the
runs are equally many, and the observed evaluations are those that the runs report; the templates made
less those deleted are the ones stored; the stored templates rendered and the templates changed are
counted. The gauge tells how many templates are stored, if it was at zero in the beginning or if a
template was made or deleted or the gauges sampled since. What is refused moves nothing. -/
theorem meters_balance (functions : Functions) (settings : Settings) (begun : Moment)
    (meters : Meters) (events : List Event) :
    let fresh := { Service.start settings begun with meters := meters }
    let service := fresh.afterAll functions events
    let deeds := fresh.deedsOf functions events
    let runs := Deed.reports deeds
    service.meters.rendersTotal = meters.rendersTotal + runs.length ∧
    service.meters.iterationCount = meters.iterationCount + runs.length ∧
    service.meters.iterationSum = meters.iterationSum + Report.totalIterations runs ∧
    service.meters.operations .create + meters.operations .delete =
      meters.operations .create + service.meters.operations .delete + service.catalogue.size ∧
    (meters.templatesStored = 0 ∨ (∃ deed ∈ deeds, deed.gauges = true) →
      service.meters.templatesStored = service.catalogue.size) ∧
    service.meters.operations .render = meters.operations .render + Deed.count .render deeds ∧
    service.meters.operations .update = meters.operations .update + Deed.count .update deeds ∧
    (∀ event : Event, event.Refused functions service →
      (event.after functions service).meters = service.meters) := by
  intro fresh service deeds runs
  have accounts := accounts_events functions fresh events
  have nothing : fresh.catalogue.size = 0 := rfl
  refine ⟨accounts.rendersTotal, accounts.runs, accounts.iterations, ?_, ?_, accounts.operations _,
    accounts.operations _, ?_⟩
  · have created : service.meters.operations .create =
        meters.operations .create + Deed.count .create deeds := accounts.operations .create
    have deleted : service.meters.operations .delete =
        meters.operations .delete + Deed.count .delete deeds := accounts.operations .delete
    have stored : fresh.catalogue.size + Deed.count .create deeds =
        Deed.count .delete deeds + service.catalogue.size := accounts.stored
    omega
  · intro noted
    exact accounts.gauge (noted.imp_left fun zero => zero.trans nothing.symm)
  · intro event refused
    rw [event.unchanged_of_refused refused]

end Service

end TagWeave
