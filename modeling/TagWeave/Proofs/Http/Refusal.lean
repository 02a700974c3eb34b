import TagWeave.Proofs.Http.Performing

/-! Refused requests. An answer that does not grant what is asked leaves the whole service as it was,
and an answer that changes the catalogue does so at the one id that the request names. -/
namespace TagWeave

variable {service after : Service} {id : Text}

namespace Http

variable {occasion : Occasion} {request : Request} {endpoint : Endpoint} {response : Response}
  {route : Route}

/-- Whether an answer grants what was asked. -/
def Response.Grants (response : Response) : Prop := 200 ≤ response.status ∧ response.status ≤ 299

/-- The requests that may change the catalogue, each with the status of the answer that does and the
id that the request names. -/
inductive Changes (service : Service) (occasion : Occasion) (request : Request) :
    (status : Nat) → (id : Text) → Prop where
  | create {template : Template} (method : request.method = .post)
      (path : request.path = "/api/v1/templates".toList)
      (read : request.read service.settings.bodyLimit (.record Template.createFields)
        (Template.ofCreateRequest occasion.now) = .ok template) :
      Changes service occasion request 201 template.id
  | update {part id : Text} (method : request.method = .put)
      (path : request.path = "/api/v1/templates/".toList ++ part) (whole : '/' ∉ part)
      (named : unescaped? part = some id) : Changes service occasion request 200 id
  | delete {part id : Text} (method : request.method = .delete)
      (path : request.path = "/api/v1/templates/".toList ++ part) (whole : '/' ∉ part)
      (named : unescaped? part = some id) : Changes service occasion request 204 id

theorem Performed.grants (performed : Performed service occasion request endpoint response after) :
    response.Grants := by
  cases performed with
  | told _ status | sampled status | rendered status | announced status | created status _ _
  | updated status _ _ | deleted status _ _ | renderedStored status _ _ =>
    rw [Response.Grants, status]
    decide

/-- An endpoint changes the catalogue at the one id that the request names, or not at all. -/
theorem Performed.catalogue (performed : Performed service occasion request endpoint response after)
    (found : Route.ofPath? request.path = some route)
    (allowed : route.endpoint? request.method = some endpoint) :
    after.catalogue = service.catalogue ∨
      ∃ id, Changes service occasion request response.status id ∧
        ∀ other, other ≠ id → after.catalogue.find? other = service.catalogue.find? other := by
  cases performed with
  | told _ _ | sampled _ | rendered _ | announced _ => exact .inl rfl
  | created status read made_ok =>
    obtain ⟨rfl, method⟩ := Route.endpoint?_eq_createTemplate_iff.mp allowed
    rw [status]
    refine .inr ⟨_, .create method (Route.path_of_templates found) read, ?_⟩
    intro other different
    rw [Catalogue.find?_create (Service.catalogue_tryCreate made_ok) other, if_neg (Ne.symm different)]
  | updated status named changed_ok =>
    obtain ⟨rfl, method⟩ := Route.endpoint?_eq_updateTemplate_iff.mp allowed
    obtain ⟨path, whole⟩ := Route.path_of_template found
    rw [status]
    refine .inr ⟨_, .update method path whole named, ?_⟩
    intro other different
    rw [Catalogue.find?_update (Service.catalogue_tryUpdate changed_ok) other, if_neg (Ne.symm different)]
  | deleted status named deleted_ok =>
    obtain ⟨rfl, method⟩ := Route.endpoint?_eq_deleteTemplate_iff.mp allowed
    obtain ⟨path, whole⟩ := Route.path_of_template found
    rw [status]
    refine .inr ⟨_, .delete method path whole named, ?_⟩
    intro other different
    rw [Catalogue.find?_delete (Service.catalogue_tryDelete deleted_ok) other, if_neg (Ne.symm different)]
  | renderedStored _ _ rendered_ok =>
    obtain ⟨template, -, -, rfl⟩ := Service.tryRender_eq_ok_iff.mp rendered_ok
    exact .inl rfl

theorem unchanged_of_refused (refused : ¬ (handle service occasion request).1.Grants) :
    (handle service occasion request).2 = service := by
  rcases handle_cases service occasion request with
    same | ⟨route, endpoint, response, -, -, performed, status⟩
  · exact same
  · rw [Response.Grants, status] at refused
    exact absurd performed.grants refused

theorem handle_catalogue (service : Service) (occasion : Occasion) (request : Request) :
    (handle service occasion request).2.catalogue = service.catalogue ∨
      ∃ id, Changes service occasion request (handle service occasion request).1.status id ∧
        ∀ other, other ≠ id →
          (handle service occasion request).2.catalogue.find? other =
            service.catalogue.find? other := by
  rcases handle_cases service occasion request with
    same | ⟨route, endpoint, response, found, allowed, performed, status⟩
  · exact .inl (congrArg Service.catalogue same)
  · rw [status]
    exact performed.catalogue found allowed

/-- A refused request changes nothing. In any state of the service, an answer that does not grant what
was asked leaves the service as it was, its catalogue, its registry and its meters among the rest; and
the catalogue changes only with a template made, changed or deleted, and only at the id that the
request names. -/
theorem handle_refused_unchanged (service : Service) (occasion : Occasion) (request : Request) :
    let response := (handle service occasion request).1
    let after := (handle service occasion request).2
    (¬ response.Grants → after = service) ∧
    (after.catalogue = service.catalogue ∨
      ∃ id, Changes service occasion request response.status id ∧
        ∀ other, other ≠ id → after.catalogue.find? other = service.catalogue.find? other) :=
  ⟨unchanged_of_refused, handle_catalogue service occasion request⟩

def serve : Service → List (Occasion × Request) → List Response × Service
  | service, [] => ([], service)
  | service, (occasion, request) :: rest =>
    let (response, after) := handle service occasion request
    let (responses, final) := serve after rest
    (response :: responses, final)

/-- Requests that are all refused change nothing, however many there are. -/
theorem serve_refused_unchanged {requests : List (Occasion × Request)}
    (refused : ∀ response ∈ (serve service requests).1, ¬ response.Grants) :
    (serve service requests).2 = service := by
  induction requests generalizing service with
  | nil => rfl
  | cons first rest ih =>
    obtain ⟨occasion, request⟩ := first
    have here := unchanged_of_refused (refused (handle service occasion request).1 (by simp [serve]))
    have later : (serve (handle service occasion request).2 rest).2 =
        (handle service occasion request).2 :=
      ih fun response member => refused response (by simp [serve, member])
    exact later.trans here

/-- A difference at an id comes of a request that names the id. -/
theorem serve_changes {requests : List (Occasion × Request)}
    (different : (serve service requests).2.catalogue.find? id ≠ service.catalogue.find? id) :
    ∃ before occasion request after, requests = before ++ (occasion, request) :: after ∧
      Changes (serve service before).2 occasion request
        (handle (serve service before).2 occasion request).1.status id := by
  induction requests generalizing service with
  | nil => exact absurd rfl different
  | cons first rest ih =>
    obtain ⟨occasion, request⟩ := first
    by_cases same : (handle service occasion request).2.catalogue.find? id = service.catalogue.find? id
    · rw [← same] at different
      obtain ⟨before, later, changing, after, rfl, changes⟩ := ih different
      exact ⟨(occasion, request) :: before, later, changing, after, rfl, changes⟩
    · rcases handle_catalogue service occasion request with unchanged | ⟨named, changes, others⟩
      · exact absurd (congrArg (Catalogue.find? · id) unchanged) same
      · obtain rfl : named = id := by
          by_contra other
          exact same (others id (Ne.symm other))
        exact ⟨[], occasion, request, rest, rfl, changes⟩

end Http

end TagWeave
