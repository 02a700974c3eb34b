import TagWeave.Proofs.Engine.OrderFree
import TagWeave.Proofs.Http.Rendering
import TagWeave.Proofs.Json.Equality
import TagWeave.Proofs.Leveling.Tags

/-! The ways to a rendering agree. A stored template is rendered as it would be inline, and an
announcement as an inline template whose tags are the names of the announcement: the two stores differ
in the order of the names, which rendering does not see. -/
namespace TagWeave

/-- The template of an announcement: the content of the stored one that is named, or else the one
that is given. -/
def Service.announcedText? (service : Service) (template id : Option Text) : Option Text :=
  match id with
  | none => template
  | some id => (service.catalogue.find? id).map Template.content

variable {service : Service} {occasion later : Occasion} {text : Text} {store other : Store}

theorem Announcement.messageOf_of_filled (filled : Text.trim text ≠ []) :
    Announcement.messageOf (some text) = text := if_neg filled

namespace Http

variable {request : Request} {route : Route} {endpoint : Endpoint} {given id : Option Text}
  {content name : Text} {template : Template} {tags : Json} {announcement : Announcement}

/-- Whether a response has the status and the body of another one. -/
def Response.Tells (response other : Response) : Prop :=
  response.status = other.status ∧ response.body = other.body

structure AsksInline (settings : Settings) (request : Request) (template : Text) (tags : Json) :
    Prop where
  admitted : Admitted settings request
  method : request.method = .post
  path : request.path = "/api/v1/render".toList
  brought : request.read settings.bodyLimit (.record renderFields) renderingOf = .ok (template, tags)

structure AsksById (settings : Settings) (request : Request) (id : Text) (tags : Json) : Prop where
  admitted : Admitted settings request
  method : request.method = .post
  path : ∃ part, part ≠ [] ∧ '/' ∉ part ∧ unescaped? part = some id ∧
    request.path = "/api/v1/templates/".toList ++ part ++ "/render".toList
  brought : request.read settings.bodyLimit (.record storedRenderFields)
    (tagsOf storedRenderFields) = .ok tags

/-- A request to render an announcement, with an inline template or the id of a stored one. -/
structure Announces (settings : Settings) (request : Request) (template id : Option Text)
    (announcement : Announcement) : Prop where
  admitted : Admitted settings request
  method : request.method = .post
  path : request.path = "/api/v1/level-up/render".toList
  brought : request.read settings.bodyLimit (.record announceFields) announcingOf =
    .ok (template, id, announcement)

/-- A request that is let through gets the reply of its endpoint. -/
theorem handle_tells (occasion : Occasion) (admitted : Admitted service.settings request)
    (method : request.method = .post) (found : Route.ofPath? request.path = some route)
    (allowed : route.endpoint? .post = some endpoint) :
    (handle service occasion request).1.Tells
      (reply (perform service occasion request endpoint).1) := by
  rw [← answer_of_admitted admitted found (method ▸ allowed), handle_eq_dressed]
  simp only [dressed, method]
  exact ⟨rfl, rfl⟩

/-- The response about the store of some tags, or about the tags themselves if they are refused. -/
def withStoreOf (tags : Json) (tell : Store → Response) : Response :=
  match seed tags with
  | .error problem => problem.response
  | .ok store => tell store

theorem AsksInline.tells (asks : AsksInline service.settings request content tags)
    (occasion : Occasion) :
    (handle service occasion request).1.Tells
      (withStoreOf tags fun store =>
        renderedInline (service.reportOf occasion.draws content store)) := by
  have found : Route.ofPath? request.path = some .render := by rw [asks.path]; decide
  have told := handle_tells occasion asks.admitted asks.method found rfl
  rwa [reply_render, asks.brought] at told

theorem AsksById.tells (asks : AsksById service.settings request name tags)
    (kept : service.catalogue.find? name = some template) (occasion : Occasion) :
    (handle service occasion request).1.Tells
      (withStoreOf tags fun store =>
        renderedById name (service.reportOf occasion.draws template.content store)) := by
  obtain ⟨part, named, whole, spelled, path⟩ := asks.path
  have found : Route.ofPath? request.path = some (.templateRender part) := by
    rw [path, Route.ofPath?_templateRender named whole]
  have told := handle_tells occasion asks.admitted asks.method found rfl
  rw [reply_renderTemplate, spelled] at told
  dsimp only at told
  rwa [asks.brought, kept] at told

theorem Announces.tells (asks : Announces service.settings request given id announcement)
    (announcing : service.announcedText? given id = some text) (filled : Text.trim text ≠ [])
    (occasion : Occasion) :
    (handle service occasion request).1.Tells
      (announced announcement (service.reportOf occasion.draws text announcement.toStore)) := by
  have found : Route.ofPath? request.path = some .announce := by rw [asks.path]; decide
  have told := handle_tells occasion asks.admitted asks.method found rfl
  rw [reply_announce, asks.brought] at told
  cases id with
  | none =>
    obtain rfl : given = some text := announcing
    dsimp only at told
    rwa [Announcement.messageOf_of_filled filled] at told
  | some id =>
    obtain ⟨template, kept, rfl⟩ := Option.map_eq_some_iff.mp announcing
    dsimp only at told
    rw [kept] at told
    dsimp only at told
    rwa [Announcement.messageOf_of_filled filled] at told

end Http

end TagWeave
