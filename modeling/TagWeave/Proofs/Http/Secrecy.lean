import TagWeave.Proofs.Http.Refusal

/-! What a request without the key learns. Such a request is answered before anything is looked up:
the answer is made of the settings and the request alone, and the service stays as it was. -/
namespace TagWeave.Http

variable {service other : Service} {occasion later : Occasion} {request : Request}
  {settings : Settings} {route : Route} {key : Text} {failure : Failure}

theorem Route.isGuarded_of_path (found : Route.ofPath? request.path = some route)
    (health : request.path ≠ "/health".toList) (metrics : request.path ≠ "/metrics".toList) :
    route.isGuarded = true := by
  have path := Text.joined_pieces '/' request.path
  rw [pieces_of_ofPath? found] at path
  cases route with
  | health => exact absurd path.symm health
  | metrics => exact absurd path.symm metrics
  | render | tags | announce | templates | template _ | templateRender _ => rfl

/-- A key is asked for, and the first header for it does not hold the key. -/
theorem keyFailure?_isSome (locked : settings.apiKey = some key)
    (without : request.headers.first? "x-api-key" ≠ some key) :
    ∃ detail, keyFailure? settings request = some (.unauthorized detail) := by
  unfold keyFailure?
  rw [locked]
  dsimp only
  cases read : request.headers.text? "x-api-key" with
  | none => exact ⟨_, rfl⟩
  | some given =>
    have different : given ≠ key := by
      rintro rfl
      exact without (Option.filter_eq_some_iff.mp read).1
    exact ⟨_, if_neg different⟩

/-- What a request is told that has not got the key. -/
def lockedResponse (settings : Settings) (request : Request) (failure : Failure) : Response :=
  if request.method = .options then permission
  else if request.statesTooLong settings.bodyLimit then Problem.announcedTooLong
  else match Route.ofPath? request.path with
    | none => (Problem.failed (.notFound ("No route for ".toList ++ request.path))).response
    | some _ => (Problem.failed failure).response

/-- A request without the key does not get to an endpoint. -/
theorem answer_of_keyFailure (service : Service) (occasion : Occasion)
    (failed : keyFailure? service.settings request = some failure)
    (guarded : ∀ route, Route.ofPath? request.path = some route → route.isGuarded = true) :
    answer service occasion request = (lockedResponse service.settings request failure, service) := by
  unfold answer lockedResponse
  split
  · rfl
  split
  · rfl
  cases found : Route.ofPath? request.path with
  | none => rfl
  | some route =>
    have stopped : guardFailure? service.settings request route = some failure := by
      rw [guardFailure?, if_pos (guarded route found), failed]
    simp only [atRoute, stopped]

theorem lockedResponse_status (settings : Settings) (detail : Text) (method : request.method ≠ .options) :
    (lockedResponse settings request (.unauthorized detail)).status ∈ [401, 404, 413] := by
  unfold lockedResponse
  rw [if_neg method]
  split
  · exact .tail _ (.tail _ (.head _))
  split
  · exact .tail _ (.head _)
  · exact .head _

/-- Without the key nothing is revealed and nothing changes. Take a service that asks for a key, and
a request for any path but the two open ones whose first header for the key is missing or wrong. Every
service with the same settings answers it with the same status, headers and body, whatever its
catalogue holds and whatever it was asked before; the answer grants something only to a question for
the options; and the service is left as it was. -/
theorem handle_without_key_reveals_nothing (same : other.settings = service.settings)
    (locked : service.settings.apiKey = some key)
    (without : request.headers.first? "x-api-key" ≠ some key)
    (health : request.path ≠ "/health".toList) (metrics : request.path ≠ "/metrics".toList)
    (occasion later : Occasion) :
    (handle service occasion request).1 = (handle other later request).1 ∧
      ((handle service occasion request).1.Grants → request.method = .options) ∧
      (handle service occasion request).2 = service := by
  obtain ⟨detail, failed⟩ := keyFailure?_isSome locked without
  have guarded (route : Route) (found : Route.ofPath? request.path = some route) :=
    Route.isGuarded_of_path found health metrics
  have here := answer_of_keyFailure service occasion failed guarded
  have there := answer_of_keyFailure other later (same ▸ failed) guarded
  rw [handle_eq_dressed service, handle_eq_dressed other, here, there]
  refine ⟨by rw [same], ?_, rfl⟩
  intro grants
  by_contra method
  rw [Response.Grants, dressed_status] at grants
  dsimp only at grants
  have refused := lockedResponse_status service.settings detail method
  simp only [List.mem_cons, List.not_mem_nil, or_false] at refused
  omega

/-- A guessed key does not tell whether a template is there. -/
theorem handle_guess_reveals_nothing :
    let settings := { Settings.standard with apiKey := some "secret".toList }
    let empty := Service.start settings ⟨0, 0⟩
    let template : Template := ⟨"hello".toList, "Hello".toList, "Hi".toList, none, ⟨0, 0⟩, ⟨0, 0⟩⟩
    let filled := { empty with catalogue := (Catalogue.empty.create template).2 }
    let request : Request := ⟨.get, "/api/v1/templates/hello".toList,
      [("X-API-Key".toList, "guess".toList)], []⟩
    let occasion : Occasion := ⟨⟨9, 0⟩, fun _ => ⟨⟨0, by decide⟩⟩⟩
    (handle empty occasion request).1 = (handle filled occasion request).1 ∧
      ((handle empty occasion request).1.Grants → request.method = .options) ∧
      (handle empty occasion request).2 = empty := by
  intro settings empty template filled request occasion
  have same : filled.settings = empty.settings := rfl
  exact handle_without_key_reveals_nothing same rfl (by decide) (by decide) (by decide)
    occasion occasion

end TagWeave.Http
