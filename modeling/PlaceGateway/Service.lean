import PlaceGateway.CallError
import PlaceGateway.Place.Json
import PlaceGateway.Request.Json
import PlaceGateway.Service.MediaType
/-! The endpoints of the gateway: one for each operation, and one that tells its health. -/

namespace PlaceGateway

structure HttpRequest where
  method : String
  target : String
  contentType : Option String
  body : Bytes
  deriving DecidableEq, Repr

structure HttpResponse where
  status : Nat
  contentType : Option String
  allow : Option String
  body : String
  deriving DecidableEq, Repr

namespace HttpResponse

def empty (status : Nat) : HttpResponse := ⟨status, none, none, ""⟩

def plain (status : Nat) (text : String) : HttpResponse :=
  ⟨status, some "text/plain; charset=utf-8", none, text⟩

def json (status : Nat) (body : Json) : HttpResponse :=
  ⟨status, some "application/json", none, body.render⟩

end HttpResponse

namespace Service

inductive Endpoint where
  | operation (operation : Operation)
  | health
  deriving DecidableEq, Repr

def root : String := "/google_maps.v1.GoogleMapsService/"

def Endpoint.path : Endpoint → String
  | operation o => root ++ o.name
  | health => "/health"

def endpoints : List Endpoint := .health :: Operation.all.map .operation

def pathOf (target : String) : String :=
  String.ofList (target.toList.takeWhile fun c => c != '?' && c != '#')

def endpoint? (target : String) : Option Endpoint := endpoints.find? (·.path == pathOf target)

def bodyLimit : Nat := 2 ^ 21

inductive Refusal where
  | contentType
  | tooLong
  | malformed
  | mistyped
  deriving DecidableEq, Repr

def Refusal.response : Refusal → HttpResponse
  | contentType => .plain 415 "Expected request with \x60Content-Type: application/json\x60"
  | tooLong => .plain 413 "Failed to buffer the request body"
  | malformed => .plain 400 "Failed to parse the request body as JSON"
  | mistyped => .plain 422 "Failed to deserialize the JSON body into the target type"

def declaresJson (r : HttpRequest) : Bool := (r.contentType.bind MediaType.ofText?).any MediaType.isJson

/-- The request that a body holds. What follows the document is not read. -/
def decode (operation : Operation) (r : HttpRequest) : Except Refusal Request :=
  if declaresJson r then
    if r.body.length ≤ bodyLimit then
      (Request.readFront operation r.body).mapError fun
        | .malformed | .truncated => .malformed
        | .mistyped => .mistyped
    else .error .tooLong
  else .error .contentType

inductive Dispatch where
  | respond (response : HttpResponse)
  | call (request : Request)
  | health (withBody : Bool)

def dispatch (r : HttpRequest) : Dispatch :=
  match endpoint? r.target with
  | none => .respond (.empty 404)
  | some .health =>
    if r.method = "GET" ∨ r.method = "HEAD" then .health (r.method = "GET")
    else .respond { HttpResponse.empty 405 with allow := some "GET,HEAD" }
  | some (.operation o) =>
    if r.method = "POST" then
      match decode o r with
      | .ok request => .call request
      | .error refusal => .respond refusal.response
    else .respond { HttpResponse.empty 405 with allow := some "POST" }

def answer : Except CallError Payload → HttpResponse
  | .ok payload => .json 200 payload.json
  | .error e => .json e.status e.json

def healthAnswer (cache : Option (Bool × String)) : HttpResponse :=
  .json 200 <| .record <|
    match cache with
    | none => [("status", .text "ok"), ("cache", .text "disabled")]
    | some (up, backend) =>
      [("status", .text (if up then "ok" else "degraded")), ("cache", .text (if up then "up" else "down")),
       ("cache_backend", .text backend)]

def respond (client : Request → Except CallError Payload) (cache : Option (Bool × String))
    (r : HttpRequest) : HttpResponse :=
  match dispatch r with
  | .respond response => response
  | .call request => answer (client request)
  | .health true => healthAnswer cache
  | .health false => { healthAnswer cache with body := "" }

end Service

end PlaceGateway
