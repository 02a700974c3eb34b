import TagWeave.Proofs.Engine.Chance
import TagWeave.Proofs.Http.Rendering
import TagWeave.Proofs.Http.Secrecy
import TagWeave.Proofs.Json.Equality

/-! Requests do not leak into each other. No request touches the settings, the registries or the
renderer of the service, and an answer that renders an inline template is made of these alone; so a
service renders as if it had just been started, whatever it was asked before. -/
namespace TagWeave

theorem Registry.names_eq_of_perm {registry : Registry} {names : List Text}
    (perm : (Entries.keys registry.entries).Perm names) (ordered : names.Pairwise Text.NotAfter) :
    registry.names = names := by
  have sorted := Text.pairwise_mergeSort_by id (Entries.keys registry.entries)
  exact ((List.mergeSort_perm _ _).trans perm).eq_of_pairwise
    (fun _ _ _ _ forth back => forth.antisymm back) sorted ordered

def Builtin.sortedNames : List Text :=
  ["abs", "ceil", "floor", "if", "in", "isNaN", "join", "length", "lower", "object", "push", "random",
    "round", "trim", "upper", "vector"].map String.toList

theorem Registry.names_standard : Registry.standard.names = Builtin.sortedNames :=
  names_eq_of_perm (by decide +kernel) (by decide +kernel)

namespace Service

variable {service other after : Service}

/-- What no request touches: the settings, the registries and the renderer. -/
structure Kept (service after : Service) : Prop where
  settings : after.settings = service.settings
  workshop : after.workshop = service.workshop
  renderer : after.renderer = service.renderer

theorem Kept.refl (service : Service) : Kept service service := ⟨rfl, rfl, rfl⟩

theorem Kept.trans {last : Service} (first : Kept service after) (second : Kept after last) :
    Kept service last :=
  ⟨second.settings.trans first.settings, second.workshop.trans first.workshop,
    second.renderer.trans first.renderer⟩

theorem Kept.symm (kept : Kept service after) : Kept after service :=
  ⟨kept.settings.symm, kept.workshop.symm, kept.renderer.symm⟩

theorem kept_settle {α : Type} {outcome : Except Refusal α × Catalogue} {counted : Meters}
    {given : α} (settled : service.settle outcome counted = (.ok given, after)) :
    Kept service after := by
  obtain ⟨-, same⟩ := settle_eq_ok_iff.mp settled
  rw [same]
  exact ⟨rfl, rfl, rfl⟩

theorem Kept.scope (kept : Kept service after) : after.scope = service.scope := by
  simp only [Service.scope, registry, kept.workshop, kept.renderer]

theorem kept_start (settings : Settings) (begun started : Moment) :
    Kept (Service.start settings begun) (Service.start settings started) := ⟨rfl, rfl, rfl⟩

theorem scope_start (settings : Settings) (now : Moment) :
    (Service.start settings now).scope = .standard := by
  unfold Service.scope registry Workshop.registryOf start
  simp only [Workshop.newRenderer, Workshop.empty, List.nil_append, List.length_nil,
    List.getElem?_cons_zero, Option.getD_some, Scope.standard]

theorem budget_start (settings : Settings) (now : Moment) :
    (Service.start settings now).renderer.budget = settings.budget := rfl

end Service

namespace Http

open Service (Kept)

variable {service other after : Service} {occasion later : Occasion} {request : Request}
  {endpoint : Endpoint} {response : Response} {route : Route} {settings : Settings}

theorem Performed.kept (performed : Performed service occasion request endpoint response after) :
    Kept service after := by
  cases performed with
  | told _ _ | sampled _ | rendered _ | announced _ => exact ⟨rfl, rfl, rfl⟩
  | created _ _ settled | updated _ _ settled | deleted _ _ settled =>
    exact Service.kept_settle settled
  | renderedStored _ _ rendered_ok =>
    obtain ⟨template, -, -, rfl⟩ := Service.tryRender_eq_ok_iff.mp rendered_ok
    exact ⟨rfl, rfl, rfl⟩

theorem handle_kept (service : Service) (occasion : Occasion) (request : Request) :
    Kept service (handle service occasion request).2 := by
  rcases handle_cases service occasion request with
    same | ⟨route, endpoint, response, -, -, performed, -⟩
  · rw [same]
    exact .refl service
  · exact performed.kept

theorem serve_kept (service : Service) (requests : List (Occasion × Request)) :
    Kept service (serve service requests).2 := by
  induction requests generalizing service with
  | nil => exact .refl service
  | cons first rest ih =>
    obtain ⟨occasion, request⟩ := first
    exact (handle_kept service occasion request).trans (ih _)

/-- Services that agree in what no request touches answer a request to a guarded endpoint alike, if
they do so once the request is let through. -/
theorem handle_congr_of_kept (kept : Kept service other) (found : Route.ofPath? request.path = some route)
    (guarded : route.isGuarded = true) (allowed : route.endpoint? request.method = some endpoint)
    (replies : Admitted service.settings request →
      reply (perform service occasion request endpoint).1 =
        reply (perform other later request endpoint).1) :
    (handle service occasion request).1 = (handle other later request).1 := by
  have answers : (answer service occasion request).1 = (answer other later request).1 := by
    by_cases admitted : Admitted service.settings request
    · rw [answer_of_admitted admitted found allowed,
        answer_of_admitted (kept.settings ▸ admitted) found allowed]
      exact replies admitted
    · -- What stops the request is found in the settings.
      cases failed : keyFailure? service.settings request with
      | some failure =>
        have only_guarded (met : Route) (meets : Route.ofPath? request.path = some met) :
            met.isGuarded = true := by
          cases found.symm.trans meets
          exact guarded
        have stopped : keyFailure? other.settings request = some failure := by rw [kept.settings, failed]
        rw [answer_of_keyFailure service occasion failed only_guarded,
          answer_of_keyFailure other later stopped only_guarded, kept.settings]
      | none =>
        have long : request.statesTooLong service.settings.bodyLimit = true := by
          by_contra short
          exact admitted ⟨failed, Bool.eq_false_iff.mpr short⟩
        simp only [answer, kept.settings, long, if_true]
        split <;> rfl
  have first := (handle_kept service occasion request).settings
  have second := (handle_kept other later request).settings
  rw [handle_service] at first second
  rw [handle_eq_dressed, handle_eq_dressed]
  dsimp only
  rw [first, second, kept.settings, answers]

/-- The evaluations that a request to render an inline template asks for do not call `random`. -/
def RendersWithoutChance (scope : Scope) (budget limit : Nat) (draws : Draws) (request : Request) :
    Prop :=
  ∀ template tags store,
    request.read limit (.record renderFields) renderingOf = .ok (template, tags) →
      seed tags = .ok store → scope.WithoutChance budget draws template store

/-- Rendering an inline template looks at nothing that a request touches. -/
theorem reply_render_of_kept (kept : Kept service other)
    (sure : RendersWithoutChance service.scope service.renderer.budget service.settings.bodyLimit
      occasion.draws request) :
    reply (perform service occasion request .render).1 =
      reply (perform other later request .render).1 := by
  rw [reply_render, reply_render, kept.settings]
  unfold RendersWithoutChance at sure
  cases read : request.read service.settings.bodyLimit (.record renderFields) renderingOf with
  | error problem => rfl
  | ok rendering =>
    obtain ⟨template, tags⟩ := rendering
    dsimp only
    cases seeded : seed tags with
    | error problem => rfl
    | ok store =>
      have same := Scope.run_of_withoutChance builtinFunctions_steady
        (sure template tags store read seeded) later.draws
      simp only [Service.reportOf, kept.scope, kept.renderer, same]

def builtinNames : Response :=
  .of 200 (.json (.ofMembers [("tags".toList, .array (Builtin.sortedNames.map .text)),
    ("total".toList, .ofNat Builtin.sortedNames.length)]))

theorem reply_tags (standard : service.scope = .standard) :
    reply (perform service occasion request .tags).1 = builtinNames := by
  have registry : service.registry = .standard := congrArg Scope.registry standard
  have names : service.registry.names = Builtin.sortedNames := by
    rw [registry, Registry.names_standard]
  simp only [perform, reply, names]
  rfl

/-- Requests do not leak into each other. Whatever a service was asked since it was started, its
registry is the standard one; it answers a request to render an inline template, if the evaluation
does not call `random`, exactly as a service that was just started with the same settings; and the
same goes for the list of tags, which has the sixteen names of the builtin functions in order. -/
theorem serve_isolates_requests (settings : Settings) (begun started : Moment)
    (history : List (Occasion × Request)) (occasion later : Occasion) (request : Request) :
    let service := (serve (Service.start settings begun) history).2
    let fresh := Service.start settings started
    service.registry = .standard ∧
    (request.method = .post → request.path = "/api/v1/render".toList →
      (Admitted settings request → RendersWithoutChance .standard settings.budget settings.bodyLimit
        occasion.draws request) →
      (handle service occasion request).1 = (handle fresh later request).1) ∧
    (request.method = .get → request.path = "/api/v1/tags".toList →
      (handle service occasion request).1 = (handle fresh later request).1 ∧
      (Admitted settings request → (handle service occasion request).1.status = 200 ∧
        (handle service occasion request).1.body = builtinNames.body)) := by
  intro service fresh
  have kept : Kept (Service.start settings begun) service := serve_kept _ history
  have alike : Kept service fresh := kept.symm.trans (Service.kept_start settings begun started)
  have standard : service.scope = .standard := kept.scope.trans (Service.scope_start settings begun)
  have budget : service.renderer.budget = settings.budget := by
    rw [kept.renderer, Service.budget_start]
  have same : service.settings = settings := kept.settings
  refine ⟨congrArg Scope.registry standard, ?_, ?_⟩
  · intro method path sure
    have found : Route.ofPath? request.path = some .render := by rw [path]; decide
    have allowed : Route.render.endpoint? request.method = some .render := by rw [method]; rfl
    refine handle_congr_of_kept alike found rfl allowed fun admitted => ?_
    apply reply_render_of_kept alike
    rw [same] at admitted ⊢
    rw [standard, budget]
    exact sure admitted
  · intro method path
    have found : Route.ofPath? request.path = some .tags := by rw [path]; decide
    have allowed : Route.tags.endpoint? request.method = some .tags := by rw [method]; rfl
    refine ⟨handle_congr_of_kept alike found rfl allowed fun _ => ?_, fun admitted => ?_⟩
    · rw [reply_tags standard, reply_tags (Service.scope_start settings started)]
    · rw [← same] at admitted
      have answered : (answer service occasion request).1 = builtinNames := by
        rw [answer_of_admitted admitted found allowed, reply_tags standard]
      rw [handle_eq_dressed, answered]
      simp only [dressed, method]
      exact ⟨rfl, rfl⟩

/-- A template that binds the name `upper` to a list reads the list under it, but the next one calls the
function again. -/
theorem serve_isolates_shadowed_upper :
    let post (body : String) : Request := ⟨.post, "/api/v1/render".toList,
      [("content-type".toList, "application/json".toList)], body.braced⟩
    let shadowing := post "⟨\"template\":\"⟨vector:upper=a,b⟩⟨upper:1⟩\"⟩"
    let asking := post "⟨\"template\":\"⟨upper:ada⟩\"⟩"
    let listing : Request := ⟨.get, "/api/v1/tags".toList, [], []⟩
    let occasion : Occasion := ⟨⟨9, 0⟩, fun _ => default⟩
    let service := (serve (Service.start .standard ⟨0, 0⟩) [(occasion, shadowing)]).2
    let fresh := Service.start .standard ⟨5, 0⟩
    let written (response : Response) : Text := match response.body with
      | .json value => value.render
      | _ => []
    written (handle fresh occasion shadowing).1 =
        "⟨\"iterations\":2,\"outcome\":\"complete\",\"output\":\"b\"⟩".braced ∧
      written (handle fresh occasion asking).1 =
        "⟨\"iterations\":1,\"outcome\":\"complete\",\"output\":\"ADA\"⟩".braced ∧
      (handle service occasion asking).1 = (handle fresh occasion asking).1 ∧
      (handle service occasion listing).1.body = builtinNames.body := by
  intro post shadowing asking listing occasion service fresh written
  have isolated := serve_isolates_requests .standard ⟨0, 0⟩ ⟨5, 0⟩ [(occasion, shadowing)] occasion
    occasion
  refine ⟨by decide +kernel, by decide +kernel, ?_, ?_⟩
  · refine (isolated asking).2.1 rfl (by decide) fun _ => ?_
    intro template tags store read seeded
    have brought : asking.read Settings.standard.bodyLimit (.record renderFields) renderingOf =
        .ok ("⟨upper:ada⟩".braced, .null) := by decide +kernel
    cases brought.symm.trans read
    cases seeded
    decide +kernel
  · have admitted : Admitted .standard listing := ⟨rfl, by decide +kernel⟩
    have path : listing.path = "/api/v1/tags".toList := by decide
    have listed := ((isolated listing).2.2 rfl path).2 admitted
    -- The service is written out, so that it is compared by its name and not by what it does.
    dsimp only [service]
    exact listed.2

end Http

end TagWeave
