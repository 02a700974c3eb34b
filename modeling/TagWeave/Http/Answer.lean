import TagWeave.Http.Problem
import TagWeave.Http.Route
import TagWeave.Service.Basic
import TagWeave.Tag.Builtin

/-! What each endpoint does: its response or a problem, and the service after it. -/
namespace TagWeave.Http

def version : String := "1.0.0"

private def object (members : List (String × Json)) : Json :=
  .ofMembers (members.map fun member => (member.1.toList, member.2))

private def ok (json : Json) : Response := .of 200 (.json json)

private def reportMembers (report : Report) : List (String × Json) :=
  [("output", .text report.output), ("iterations", .ofNat report.iterations),
   ("outcome", .ofString report.outcome.name)]

def renderedInline (report : Report) : Response := ok (object (reportMembers report))

def renderedById (id : Text) (report : Report) : Response :=
  ok (object (("template_id", .text id) :: reportMembers report))

def announced (announcement : Announcement) (report : Report) : Response :=
  ok (object [("output", .text report.output), ("level", .ofNat announcement.level)])

/-- The tags of a request: positions, names or nothing. -/
def seed (tags : Json) : Except Problem Store :=
  match tags with
  | .null | .array _ | .object _ => .ok (.ofJson tags)
  | _ => .error (.failed (.invalid "tags must be an array or an object".toList))

def orRefused {α : Type} (result : Except Refusal α) : Except Problem α :=
  result.mapError fun refusal => .failed (.refused refusal)

/-- Go on with what is given, or stop with the problem. -/
def attempt {α : Type} (service : Service) (given : Except Problem α)
    (next : α → Except Problem Response × Service) : Except Problem Response × Service :=
  match given with
  | .error problem => (.error problem, service)
  | .ok value => next value

def respond {α : Type} (outcome : Except Refusal α × Service) (response : α → Response) :
    Except Problem Response × Service :=
  ((orRefused outcome.1).map response, outcome.2)

def renderFields : List (FieldRule × Shape) :=
  [(⟨"template", .required, false⟩, .anyText), (⟨"tags", .defaulted, false⟩, .any)]

def storedRenderFields : List (FieldRule × Shape) := [(⟨"tags", .defaulted, false⟩, .any)]

def announceFields : List (FieldRule × Shape) :=
  [(⟨"template", .defaulted, true⟩, .anyText), (⟨"template_id", .defaulted, true⟩, .anyText),
   (⟨"context", .required, false⟩, .record Announcement.fields)]

def tagsOf (fields : List (FieldRule × Shape)) (draft : Draft) : Json :=
  ((draft.field fields "tags").toJson? Draft.maxDepth).getD .null

def renderingOf (draft : Draft) : Text × Json :=
  ((draft.field renderFields "template").asText, tagsOf renderFields draft)

def announcingOf (draft : Draft) : Option Text × Option Text × Announcement :=
  ((draft.field announceFields "template").text?, (draft.field announceFields "template_id").text?,
   Announcement.ofDraft (draft.field announceFields "context"))

def readId (part : Text) : Except Problem Text :=
  match unescaped? part with
  | some id => .ok id
  | none => .error .unreadablePath

/-- What an announcement is written with: the template of an id, if one is named. -/
def messageFor (service : Service) (template id : Option Text) : Except Problem (Option Text) :=
  match id with
  | some id => (orRefused (service.catalogue.get id)).map fun stored => some stored.content
  | none => .ok template

def perform (service : Service) (occasion : Occasion) (request : Request) :
    Endpoint → Except Problem Response × Service
  | .health => (.ok (ok (object [("status", .ofString "healthy"), ("version", .ofString version),
      ("uptime_seconds", .ofNat (service.uptime occasion.now)),
      ("registered_tags", .ofNat service.registry.size),
      ("stored_templates", .ofNat service.catalogue.size)])), service)
  | .metrics =>
    let service := service.sample
    (.ok (.of 200 (.samples service.meters.samples)), service)
  | .tags =>
    let names := service.registry.names
    (.ok (ok (object [("tags", .array (names.map Json.text)), ("total", .ofNat names.length)])),
      service)
  | .render =>
    attempt service (request.read service.settings.bodyLimit (.record renderFields) renderingOf)
      fun (template, tags) =>
    attempt service (seed tags) fun store =>
    let (report, service) := service.run builtinFunctions occasion.draws template store
    (.ok (renderedInline report), service)
  | .announce =>
    attempt service (request.read service.settings.bodyLimit (.record announceFields) announcingOf)
      fun (template, id, announcement) =>
    attempt service (messageFor service template id) fun message =>
    let (report, service) := service.announce builtinFunctions occasion.draws message announcement
    (.ok (announced announcement report), service)
  | .listTemplates =>
    let templates := service.catalogue.list
    (.ok (ok (object [("templates", .array (templates.map Template.toJson)),
      ("total", .ofNat templates.length)])), service)
  | .createTemplate =>
    attempt service (request.read service.settings.bodyLimit (.record Template.createFields)
      (Template.ofCreateRequest occasion.now)) fun template =>
    respond (service.tryCreate template) fun created => .of 201 (.json created.toJson)
  | .getTemplate part =>
    attempt service (readId part) fun id =>
    respond (service.catalogue.get id, service) fun template => ok template.toJson
  | .updateTemplate part =>
    attempt service (readId part) fun id =>
    attempt service (request.read service.settings.bodyLimit (.record Template.Update.fields)
      Template.Update.ofDraft) fun change =>
    respond (service.tryUpdate occasion.now id change) fun changed => ok changed.toJson
  | .deleteTemplate part =>
    attempt service (readId part) fun id =>
    respond (service.tryDelete id) fun _ => .of 204 .empty
  | .renderTemplate part =>
    attempt service (readId part) fun id =>
    attempt service (request.read service.settings.bodyLimit (.record storedRenderFields)
      (tagsOf storedRenderFields)) fun tags =>
    attempt service (seed tags) fun store =>
    respond (service.tryRender builtinFunctions occasion.draws id store) (renderedById id)

def reply : Except Problem Response → Response
  | .ok response => response
  | .error problem => problem.response

end TagWeave.Http
