import TagWeave.Proofs.Http.Performing

/-! The answers of the endpoints that render, as functions of what the request brings. Each takes the
first problem that it meets, or tells about the report of one run. -/
namespace TagWeave

/-- What the tags of a service are evaluated with. -/
def Service.scope (service : Service) : Scope := ⟨builtinFunctions, service.registry⟩

def Service.reportOf (service : Service) (draws : Draws) (text : Text) (store : Store) : Report :=
  (service.scope.run service.renderer.budget draws text store).1

namespace Http

theorem reply_render (service : Service) (occasion : Occasion) (request : Request) :
    reply (perform service occasion request .render).1 =
      match request.read service.settings.bodyLimit (.record renderFields) renderingOf with
      | .error problem => problem.response
      | .ok (template, tags) =>
        match seed tags with
        | .error problem => problem.response
        | .ok store => renderedInline (service.reportOf occasion.draws template store) := by
  simp only [perform]
  cases request.read service.settings.bodyLimit (.record renderFields) renderingOf with
  | error problem => rfl
  | ok rendering =>
    obtain ⟨template, tags⟩ := rendering
    simp only [attempt]
    cases seed tags with
    | error problem => rfl
    | ok store => rfl

theorem reply_renderTemplate (service : Service) (occasion : Occasion) (request : Request)
    (part : Text) :
    reply (perform service occasion request (.renderTemplate part)).1 =
      match unescaped? part with
      | none => Problem.unreadablePath.response
      | some id =>
        match request.read service.settings.bodyLimit (.record storedRenderFields)
          (tagsOf storedRenderFields) with
        | .error problem => problem.response
        | .ok tags =>
          match seed tags with
          | .error problem => problem.response
          | .ok store =>
            match service.catalogue.find? id with
            | none => (Problem.failed (.refused (.notFound id))).response
            | some stored =>
              renderedById id (service.reportOf occasion.draws stored.content store) := by
  simp only [perform, readId]
  cases unescaped? part with
  | none => rfl
  | some id =>
    cases request.read service.settings.bodyLimit (.record storedRenderFields)
      (tagsOf storedRenderFields) with
    | error problem => rfl
    | ok tags =>
      simp only [attempt]
      cases seed tags with
      | error problem => rfl
      | ok store =>
        simp only [Service.tryRender, Catalogue.get]
        cases service.catalogue.find? id with
        | none => rfl
        | some stored => rfl

theorem reply_announce (service : Service) (occasion : Occasion) (request : Request) :
    reply (perform service occasion request .announce).1 =
      match request.read service.settings.bodyLimit (.record announceFields) announcingOf with
      | .error problem => problem.response
      | .ok (template, none, announcement) =>
        announced announcement (service.reportOf occasion.draws (Announcement.messageOf template)
          announcement.toStore)
      | .ok (_, some id, announcement) =>
        match service.catalogue.find? id with
        | none => (Problem.failed (.refused (.notFound id))).response
        | some stored =>
          announced announcement (service.reportOf occasion.draws
            (Announcement.messageOf (some stored.content)) announcement.toStore) := by
  simp only [perform]
  cases request.read service.settings.bodyLimit (.record announceFields) announcingOf with
  | error problem => rfl
  | ok announcing =>
    obtain ⟨template, id, announcement⟩ := announcing
    cases id with
    | none => rfl
    | some id =>
      simp only [attempt, messageFor, Catalogue.get]
      cases service.catalogue.find? id with
      | none => rfl
      | some stored => rfl

end Http

end TagWeave
