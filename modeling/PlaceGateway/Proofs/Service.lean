import PlaceGateway.Proofs.Bytes
import PlaceGateway.Scenario.Service
/-! Answers of the operations. A call that fails is answered with an error that a program can read, whose
code is the status. A body that holds no request is answered in plain words. -/

namespace PlaceGateway

/-- An object that tells the status of the response, a message and the kind of the error. -/
def HttpResponse.TellsError (r : HttpResponse) : Prop :=
  r.contentType = some "application/json" ∧ ∃ message kind, r.body = (Json.record [("error", .record
    [("code", .integer r.status), ("message", .text message), ("type", .text kind)])]).render

theorem CallError.status_ne_ok (e : CallError) : e.status ≠ 200 := by
  cases e with
  | provider operation status message =>
      cases status with
      | none => exact (by decide : 502 ≠ 200)
      | some code =>
          rw [status]
          split
          · rename_i passed
            rintro rfl
            exact absurd passed (by decide)
          · decide
  | cancelled => decide
  | deadlineExceeded => decide
  | invalidRequest | emptyPayload | internal | configuration => simp [status]

namespace Service

variable {o : Operation} {r : HttpRequest} {client : Request → Except CallError Payload}
  {cache : Option (Bool × String)} {request : Request} {refusal : Refusal}

theorem answer_status_iff {result : Except CallError Payload} :
    (answer result).status = 200 ↔ ∃ payload, result = .ok payload := by
  cases result with
  | ok payload => exact ⟨fun _ => ⟨payload, rfl⟩, fun _ => rfl⟩
  | error e =>
      refine ⟨fun ok => absurd ok e.status_ne_ok, ?_⟩
      rintro ⟨payload, same⟩
      cases same

theorem answer_tellsError (e : CallError) : (answer (.error e)).TellsError := ⟨rfl, e.message, e.kind, rfl⟩

theorem Refusal.status_ne_ok (refusal : Refusal) : refusal.response.status ≠ 200 := by
  cases refusal <;> decide

theorem Refusal.body_ne (refusal : Refusal) (members : List (String × Json)) :
    refusal.response.body ≠ (Json.record members).render := by
  intro same
  have first := congrArg (fun text => (Bytes.ofText text).head?) same
  have brace : (Bytes.ofText (Json.record members).render).head? = some 123 := by
    rw [Json.render, Bytes.ofText_eq_flatMap, String.toList_ofList]
    cases members <;> rfl
  rw [brace] at first
  cases refusal <;> revert first <;> decide

theorem Refusal.not_tellsError (refusal : Refusal) : ¬refusal.response.TellsError := by
  rintro ⟨_, message, kind, body⟩
  exact refusal.body_ne _ body

theorem endpoint?_path (o : Operation) :
    endpoints.find? (·.path == (Endpoint.operation o).path) = some (.operation o) := by
  cases o <;> decide

theorem decode_eq_ok_iff : decode o r = .ok request ↔
    declaresJson r = true ∧ r.body.length ≤ bodyLimit ∧ Request.readFront o r.body = .ok request := by
  rw [decode]
  split
  · rename_i declared
    split
    · rename_i fits
      cases Request.readFront o r.body <;> simp [declared, fits, Except.mapError]
    · rename_i long
      simp [long]
  · rename_i undeclared
    simp [undeclared]

theorem dispatch_post (post : r.method = "POST") (target : pathOf r.target = (Endpoint.operation o).path) :
    dispatch r = match decode o r with
      | .ok request => .call request
      | .error refusal => .respond refusal.response := by
  have found : endpoint? r.target = some (.operation o) := by
    rw [endpoint?, target]
    exact endpoint?_path o
  rw [dispatch, found]
  exact if_pos post

theorem respond_of_request (post : r.method = "POST")
    (target : pathOf r.target = (Endpoint.operation o).path) (read : decode o r = .ok request) :
    respond client cache r = answer (client request) := by
  rw [respond, dispatch_post post target, read]

theorem respond_of_refusal (post : r.method = "POST")
    (target : pathOf r.target = (Endpoint.operation o).path) (refused : decode o r = .error refusal) :
    respond client cache r = refusal.response := by
  rw [respond, dispatch_post post target, refused]

theorem scripted_answer {setup : Scenario.Service.Setup} {s s' : Scenario.Service.State}
    {response : Option HttpResponse} (step : s.step setup (.request r) = some (s', response)) :
    ∃ result, response = some (respond (fun _ => result) (s.cacheHealth setup) r) := by
  rw [Scenario.Service.State.step] at step
  split at step
  · rename_i request asked
    obtain ⟨⟨called, result⟩, _, same⟩ := Option.bind_eq_some_iff.mp step
    cases same
    refine ⟨result, congrArg some ?_⟩
    rw [respond, asked]
  · cases step
    exact ⟨.error .cancelled, rfl⟩

/-- The answer of an operation is 200 for a payload alone, which it shows. An answer with another status tells
an error if the body holds a request, and if it holds none is a refusal, in words that are no JSON. Requests
are read from the front of bodies that are declared as JSON and not too long. -/
theorem errors_are_told_iff (client : Request → Except CallError Payload) (cache : Option (Bool × String))
    (post : r.method = "POST") (target : pathOf r.target = (Endpoint.operation o).path) :
    ((respond client cache r).status = 200 ↔ ∃ request payload, decode o r = .ok request ∧
      client request = .ok payload ∧ respond client cache r = .json 200 payload.json) ∧
    ((respond client cache r).status = 200 ∨ (respond client cache r).TellsError ↔
      ∃ request, decode o r = .ok request) ∧
    (∀ refusal, decode o r = .error refusal → respond client cache r = refusal.response ∧
      ∀ members, (respond client cache r).body ≠ (Json.record members).render) ∧
    (∀ request, decode o r = .ok request ↔ declaresJson r = true ∧ r.body.length ≤ bodyLimit ∧
      Request.readFront o r.body = .ok request) ∧
    ∀ (setup : Scenario.Service.Setup) (s s' : Scenario.Service.State) (response : Option HttpResponse),
      s.step setup (.request r) = some (s', response) →
        ∃ result, response = some (respond (fun _ => result) (s.cacheHealth setup) r) := by
  refine ⟨?_, ?_, ?_, fun request => decode_eq_ok_iff, fun setup s s' response => scripted_answer⟩
  · constructor
    · intro ok
      cases read : decode o r with
      | ok request =>
          rw [respond_of_request post target read] at ok ⊢
          obtain ⟨payload, result⟩ := answer_status_iff.mp ok
          exact ⟨request, payload, rfl, result, by rw [result, answer]⟩
      | error refusal =>
          rw [respond_of_refusal post target read] at ok
          exact absurd ok refusal.status_ne_ok
    · rintro ⟨request, payload, _, _, shown⟩
      rw [shown]
      rfl
  · cases read : decode o r with
    | ok request =>
        rw [respond_of_request post target read]
        refine ⟨fun _ => ⟨request, rfl⟩, fun _ => ?_⟩
        cases client request with
        | ok payload => exact .inl rfl
        | error e => exact .inr (answer_tellsError e)
    | error refusal =>
        rw [respond_of_refusal post target read]
        constructor
        · rintro (ok | tells)
          · exact absurd ok refusal.status_ne_ok
          · exact absurd tells refusal.not_tellsError
        · rintro ⟨request, same⟩
          cases same
  · intro refusal refused
    rw [respond_of_refusal post target refused]
    exact ⟨rfl, refusal.body_ne⟩

def talkative : HttpRequest where
  method := "POST"
  target := "/google_maps.v1.GoogleMapsService/GetPlace?x=1"
  contentType := some "application/json; charset=utf-8"
  body := Bytes.ofText "\x7b\"name\":\"places/a\"\x7d and so on"

theorem talkative_path : pathOf talkative.target = (Endpoint.operation .getPlace).path := by decide +kernel

def talkativeLookup : Request := (decode .getPlace talkative).toOption.get (by decide +kernel)

theorem decode_talkative : decode .getPlace talkative = .ok talkativeLookup := by
  have some_ : (decode .getPlace talkative).toOption = some talkativeLookup := (Option.some_get _).symm
  cases read : decode .getPlace talkative with
  | ok request =>
      rw [read] at some_
      exact congrArg _ (Option.some.inj some_)
  | error refusal =>
      rw [read] at some_
      cases some_

theorem errors_are_told_of_talkative :
    talkative.method = "POST" ∧ pathOf talkative.target = (Endpoint.operation .getPlace).path ∧
      (respond (fun _ => .error (.provider "get place" (some 404) "gone")) none talkative).TellsError := by
  have post : talkative.method = "POST" := rfl
  have told := errors_are_told_iff (fun _ => .error (.provider "get place" (some 404) "gone")) none post talkative_path
  refine ⟨post, talkative_path, ?_⟩
  rcases told.2.1.mpr ⟨_, decode_talkative⟩ with ok | tells
  · obtain ⟨request, payload, _, result, _⟩ := told.1.mp ok
    cases result
  · exact tells

/-- A body that is no JSON is told so in words. -/
theorem refusal_tells_no_error :
    ¬ ∀ (client : Request → Except CallError Payload) (cache : Option (Bool × String)) (r : HttpRequest)
      (o : Operation), r.method = "POST" → pathOf r.target = (Endpoint.operation o).path →
        (respond client cache r).status = 200 ∨ (respond client cache r).TellsError := by
  intro claim
  let r : HttpRequest := { talkative with body := Bytes.ofText "nope" }
  let client (_ : Request) : Except CallError Payload := .error .cancelled
  have refused : respond client none r = Refusal.malformed.response := by decide +kernel
  have holds := claim client none r .getPlace rfl talkative_path
  rw [refused] at holds
  rcases holds with ok | tells
  · exact Refusal.malformed.status_ne_ok ok
  · exact Refusal.malformed.not_tellsError tells

end Service

end PlaceGateway
