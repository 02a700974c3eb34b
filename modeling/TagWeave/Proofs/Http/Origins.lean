import TagWeave.Proofs.Http.Isolation

/-! The pages that answers are open to. They are named by the outermost step alone, from the settings
and the origin that a request states: a configured origin that is usable is named back to its own
pages. But a list of which no origin is usable counts as no list, and then every page is let in. -/
namespace TagWeave.Http

/-- The pages that a response is open to, as its headers name them. -/
def Response.openTo (response : Response) : List Text :=
  (response.headers.filter fun header => header.1 == "access-control-allow-origin".toList).map
    Prod.snd

variable {service after : Service} {occasion : Occasion} {request : Request} {endpoint : Endpoint}
  {response : Response} {settings : Settings} {origin : Text}

theorem openTo_of (status : Nat) (body : Body) : (Response.of status body).openTo = [] := by
  cases body <;> rfl

theorem openTo_withHeader_other {name : String} (value : Option Text) (response : Response)
    (other : name.toList ≠ "access-control-allow-origin".toList) :
    (response.withHeader name value).openTo = response.openTo := by
  have unnamed := beq_eq_false_iff_ne.mpr other
  cases value <;>
    simp only [Response.openTo, Response.withHeader, Option.map_none, Option.map_some,
      Option.toList_none, Option.toList_some, List.append_nil, List.filter_append,
      List.filter_singleton, unnamed, cond_false]

theorem openTo_withHeader (value : Option Text) (response : Response) :
    (response.withHeader "access-control-allow-origin" value).openTo =
      response.openTo ++ value.toList := by
  cases value <;> simp [Response.openTo, Response.withHeader]

theorem openTo_problem (problem : Problem) : problem.response.openTo = [] := by
  cases problem with
  | body fault => cases fault <;> rfl
  | failed _ | unreadablePath | mediaType | tooLong => rfl

/-- What a response of some steps has, if they succeed, is told by the last step. -/
theorem openTo_attempt {α : Type} {given : Except Problem α}
    {next : α → Except Problem Response × Service}
    (later : ∀ value, (reply (next value).1).openTo = []) :
    (reply (attempt service given next).1).openTo = [] := by
  cases given with
  | error problem => exact openTo_problem problem
  | ok value => exact later value

theorem openTo_respond {α : Type} {outcome : Except Refusal α × Service} {build : α → Response}
    (later : ∀ value, (build value).openTo = []) :
    (reply (respond outcome build).1).openTo = [] := by
  obtain ⟨refusal | value, after⟩ := outcome
  · exact openTo_problem _
  · exact later value

theorem openTo_perform (service : Service) (occasion : Occasion) (request : Request)
    (endpoint : Endpoint) : (reply (perform service occasion request endpoint).1).openTo = [] := by
  cases endpoint with
  | health | metrics | tags | listTemplates => rfl
  | render => exact openTo_attempt fun rendering => openTo_attempt fun store => rfl
  | announce => exact openTo_attempt fun announcing => openTo_attempt fun message => rfl
  | createTemplate => exact openTo_attempt fun template => openTo_respond fun created => rfl
  | getTemplate part => exact openTo_attempt fun id => openTo_respond fun template => rfl
  | updateTemplate part =>
    exact openTo_attempt fun id => openTo_attempt fun change => openTo_respond fun changed => rfl
  | deleteTemplate part => exact openTo_attempt fun id => openTo_respond fun _ => rfl
  | renderTemplate part =>
    exact openTo_attempt fun id => openTo_attempt fun tags => openTo_attempt fun store =>
      openTo_respond fun report => rfl

theorem openTo_answer (service : Service) (occasion : Occasion) (request : Request) :
    (answer service occasion request).1.openTo = [] := by
  unfold answer
  split
  · rfl
  split
  · rfl
  split
  · exact openTo_problem _
  rename_i route found
  unfold atRoute
  split
  · exact openTo_problem _
  split
  · exact openTo_of _ _
  rename_i endpoint allowed
  exact openTo_perform service occasion request endpoint

/-- An answer names the pages that the settings open it to, and no others. -/
theorem openTo_handle (service : Service) (occasion : Occasion) (request : Request) :
    (handle service occasion request).1.openTo = (openTo? service.settings request).toList := by
  have kept := (handle_kept service occasion request).settings
  rw [handle_service] at kept
  have named : ((answer service occasion request).1.withHeader "allow"
      (allowedInstead? request)).openTo = [] := by
    rw [openTo_withHeader_other _ _ (by decide), openTo_answer]
  have opened := openTo_withHeader (openTo? service.settings request)
    ((answer service occasion request).1.withHeader "allow" (allowedInstead? request))
  rw [named, List.nil_append] at opened
  rw [handle_eq_dressed]
  dsimp only [dressed]
  rw [kept]
  split
  · exact opened
  · exact opened

theorem mem_usableOrigins :
    origin ∈ usableOrigins settings ↔ origin ∈ settings.origins ∧ isUsableOrigin origin = true :=
  List.mem_filter

theorem openTo?_of_usable (usable : ∃ origin ∈ settings.origins, isUsableOrigin origin = true) :
    openTo? settings request =
      (request.headers.first? "origin").filter (usableOrigins settings).contains := by
  obtain ⟨origin, configured, fine⟩ := usable
  have listed := mem_usableOrigins.mpr ⟨configured, fine⟩
  unfold openTo?
  split
  · rename_i none
    rw [none] at listed
    cases listed
  · rfl

theorem openTo?_of_unusable (unusable : ∀ origin ∈ settings.origins, isUsableOrigin origin = false) :
    openTo? settings request = some ['*'] := by
  have none : usableOrigins settings = [] := by
    apply List.eq_nil_iff_forall_not_mem.mpr
    intro origin listed
    obtain ⟨configured, fine⟩ := mem_usableOrigins.mp listed
    rw [unusable origin configured] at fine
    cases fine
  rw [openTo?, none]

theorem start_of_no_wildcard (literal : ['*'] ∉ settings.origins) (begun : Moment) :
    start settings begun = .ok (.start settings begun) := by
  have missing : (usableOrigins settings).contains ['*'] = false := by
    rw [Bool.eq_false_iff]
    intro listed
    exact literal (mem_usableOrigins.mp (List.contains_iff_mem.mp listed)).1
  rw [start, startFault?, missing]
  rfl

/-- A list of origins without the sign for any origin is served. Whatever was asked before, if one of
its origins is usable, an answer names no page at all or the configured origin that the request comes
from, and each usable origin is named to its own pages. If none is usable, though some be configured,
every answer is open to all pages. -/
theorem serve_open_to_configured (settings : Settings) (begun : Moment)
    (literal : ['*'] ∉ settings.origins) :
    ∃ service, start settings begun = .ok service ∧
      ∀ (history : List (Occasion × Request)) (occasion : Occasion) (request : Request),
        let opened := (handle (serve service history).2 occasion request).1.openTo
        let from? := request.headers.first? "origin"
        ((∃ origin ∈ settings.origins, isUsableOrigin origin = true) →
          (opened = [] ∨
            ∃ origin ∈ settings.origins, opened = [origin] ∧ from? = some origin ∧ origin ≠ ['*']) ∧
          (∀ origin ∈ settings.origins, isUsableOrigin origin = true → from? = some origin →
            opened = [origin])) ∧
        ((∀ origin ∈ settings.origins, isUsableOrigin origin = false) → opened = [['*']]) := by
  refine ⟨.start settings begun, start_of_no_wildcard literal begun, ?_⟩
  intro history occasion request opened from?
  have same : (serve (Service.start settings begun) history).2.settings = settings :=
    (serve_kept _ history).settings
  have named : opened = (openTo? settings request).toList := by
    rw [← same]
    exact openTo_handle _ occasion request
  refine ⟨fun usable => ?_, fun unusable => ?_⟩
  · rw [named, openTo?_of_usable usable]
    constructor
    · cases echoed : from?.filter (usableOrigins settings).contains with
      | none => exact .inl rfl
      | some origin =>
        obtain ⟨comes, listed⟩ := Option.filter_eq_some_iff.mp echoed
        obtain ⟨configured, -⟩ := mem_usableOrigins.mp (List.contains_iff_mem.mp listed)
        exact .inr ⟨origin, configured, rfl, comes, fun wildcard => literal (wildcard ▸ configured)⟩
    · intro origin configured fine comes
      have listed := List.contains_iff_mem.mpr (mem_usableOrigins.mpr ⟨configured, fine⟩)
      rw [Option.filter_eq_some_iff.mpr ⟨comes, listed⟩]
      rfl
  · rw [named, openTo?_of_unusable unusable]
    rfl

/-- A request for the health of the service from some page. -/
def askFrom (page : String) : Request :=
  ⟨.get, "/health".toList, [("origin".toList, page.toList)], []⟩

/-- One usable origin is enough to keep the other pages out. -/
theorem serve_open_to_one_usable :
    let settings := { Settings.standard with
      origins := ["https://app.example\n".toList, "https://app.example".toList] }
    let occasion : Occasion := ⟨⟨9, 0⟩, fun _ => default⟩
    ['*'] ∉ settings.origins ∧ ∃ service, start settings ⟨0, 0⟩ = .ok service ∧
      (handle (serve service []).2 occasion (askFrom "https://app.example")).1.openTo =
        ["https://app.example".toList] ∧
      (handle (serve service []).2 occasion (askFrom "https://other.example")).1.openTo = [] := by
  intro settings occasion
  have literal : ['*'] ∉ settings.origins := by decide
  obtain ⟨service, started, opened⟩ := serve_open_to_configured settings ⟨0, 0⟩ literal
  have usable : ∃ origin ∈ settings.origins, isUsableOrigin origin = true :=
    ⟨"https://app.example".toList, by decide, by decide⟩
  refine ⟨literal, service, started, ?_, ?_⟩
  · exact ((opened [] occasion (askFrom "https://app.example")).1 usable).2 _ (by decide) (by decide)
      rfl
  · rcases ((opened [] occasion (askFrom "https://other.example")).1 usable).1 with
      none | ⟨origin, configured, -, comes, -⟩
    · exact none
    · cases comes
      exact absurd configured (by decide)

/-- A list whose only origin ends in a line break keeps no page out. -/
theorem handle_open_to_all_despite_list :
    let settings := { Settings.standard with origins := ["https://app.example\n".toList] }
    let occasion : Occasion := ⟨⟨9, 0⟩, fun _ => default⟩
    settings.origins ≠ [] ∧ ['*'] ∉ settings.origins ∧
      ∃ service, start settings ⟨0, 0⟩ = .ok service ∧
        (handle service occasion (askFrom "https://other.example")).1.openTo = [['*']] := by
  intro settings occasion
  have literal : ['*'] ∉ settings.origins := by decide
  have unusable : ∀ origin ∈ settings.origins, isUsableOrigin origin = false := by decide
  refine ⟨by decide, literal, _, start_of_no_wildcard literal ⟨0, 0⟩, ?_⟩
  have same : (Service.start settings ⟨0, 0⟩).settings = settings := rfl
  rw [openTo_handle, same, openTo?_of_unusable unusable]
  rfl

end TagWeave.Http
