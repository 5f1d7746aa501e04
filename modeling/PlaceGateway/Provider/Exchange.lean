import PlaceGateway.CallError
import PlaceGateway.Config
import PlaceGateway.Provider.Failure
import PlaceGateway.Provider.Place
import PlaceGateway.Provider.Query
import PlaceGateway.Url
/-! An exchange with the provider: which requests are refused before it, what is sent, and how the reply
is read. -/

namespace PlaceGateway

def Url.withPairs (u : Url) (pairs : List (String × String)) : Url :=
  let added := String.ofList (formPairs pairs)
  let query := match u.query with
    | some query => if query = "" ∨ added = "" then query ++ added else query ++ "&" ++ added
    | none => added
  { u with query := if query = "" then none else some query }

def Url.target (u : Url) : String :=
  u.path.text ++ match u.query with
    | some query => "?" ++ query
    | none => ""

namespace Provider

def isPlaceIdChar (c : Char) : Bool := c.isAlphanum || c == '-' || c == '_'

/-- The name is put into a path as it is, so that only harmless characters may follow `places/`. -/
def isPlaceName (name : String) : Bool :=
  match name.toList with
  | 'p' :: 'l' :: 'a' :: 'c' :: 'e' :: 's' :: '/' :: id => id ≠ [] && id.all isPlaceIdChar
  | _ => false

def require (field value : String) : Except CallError Unit :=
  if value = "" then .error (.invalidRequest field "is required") else .ok ()

def requirePlaceName (name : String) : Except CallError Unit := do
  require "name" name
  if isPlaceName name then .ok ()
  else .error (.invalidRequest "name" "must be of the form places/\x7bid\x7d")

def screen : Request → Except CallError Unit
  | .searchText r => require "text_query" r.textQuery
  | .searchRestaurants r => require "text_query" r.textQuery
  | .getPlace r => requirePlaceName r.name
  | .getRestaurantDetails r => requirePlaceName r.name

def callName : Operation → String
  | .searchText => "search text"
  | .searchRestaurants => "search restaurants"
  | .getPlace | .getRestaurantDetails => "get place"

def fields : Request → List String
  | .searchText r => r.requestedFields
  | .getPlace r => r.requestedFields
  | .searchRestaurants _ | .getRestaurantDetails _ => restaurantFields

def scope (r : Request) : String :=
  match r.operation.answerKind with
  | .search => searchScope
  | .place => ""

def resource : Request → String
  | .searchText _ | .searchRestaurants _ => "places:searchText"
  | .getPlace r => r.name
  | .getRestaurantDetails r => r.name

def pairs : Request → List (String × String)
  | .searchText _ | .searchRestaurants _ => []
  | .getPlace r => lookupPairs r.languageCode r.regionCode r.sessionToken
  | .getRestaurantDetails r => lookupPairs r.languageCode r.regionCode r.sessionToken

def body? : Request → Option Json
  | .searchText r => some (searchBody r)
  | .searchRestaurants r => some (searchBody r.toTextSearch)
  | .getPlace _ | .getRestaurantDetails _ => none

structure Message where
  url : Url
  apiKey : String
  fieldMask : String
  body : Option Json

namespace Message

def method (m : Message) : String := if m.body.isSome then "POST" else "GET"

def headers (m : Message) : List (String × String) :=
  [("x-goog-api-key", m.apiKey), ("x-goog-fieldmask", m.fieldMask)] ++
    if m.body.isSome then [("content-type", "application/json")] else []

end Message

structure Reply where
  status : Nat
  body : Bytes
  deriving DecidableEq, Repr

/-- A failed body is read as text, and bytes that are no text are repaired. -/
def replyError (operation : Operation) (reply : Reply) : CallError :=
  let mark : Bytes := [0xEF, 0xBB, 0xBF]
  let body := if reply.body.take 3 = mark then reply.body.drop 3 else reply.body
  .provider (callName operation) (some reply.status) (failureMessage (Bytes.textLossy body))

def readReply (operation : Operation) (reply : Reply) : Except CallError Payload :=
  if 200 ≤ reply.status ∧ reply.status < 300 then
    (readPayload operation.answerKind reply.body).mapError fun _ =>
      .provider (callName operation) none "invalid response body"
  else .error (replyError operation reply)

/-- Carries messages, and tells why it could not. -/
abbrev Transport := Message → Except String Reply

def Transport.unreachable : Transport := fun _ => .error "error sending request"

structure Access where
  baseUrl : String
  apiKey : String
  deriving DecidableEq, Repr

namespace Access

def trimSlashes (text : String) : String :=
  String.ofList (Text.dropEnd (· == '/') text.toList)

def ofConfig (c : ProviderConfig) : Except CallError Access :=
  match Url.ofText c.baseUrl with
  | .ok _ => .ok ⟨trimSlashes c.baseUrl, c.apiKey⟩
  | .error e => .error (.configuration ("Invalid upstream base URL: " ++ e.message))

def isHeaderText (text : String) : Bool :=
  text.toList.all fun c => c == '\t' || (32 ≤ c.toNat && c.toNat != 127)

def message (a : Access) (r : Request) : Except String Message :=
  let mask := fieldMask (fields r) (scope r)
  match Url.ofText (a.baseUrl ++ "/v1/" ++ resource r) with
  | .error e => .error e.message
  | .ok url =>
    if isHeaderText mask ∧ isHeaderText a.apiKey then
      .ok ⟨url.withPairs (pairs r), a.apiKey, mask, body? r⟩
    else .error "failed to parse header value"

def prepare (a : Access) (done : Option CallError) (r : Request) : Except CallError Message := do
  screen r
  match done with
  | some e => throw e
  | none =>
    (a.message r).mapError fun reason =>
      .provider (callName r.operation) none ("builder error: " ++ reason)

def call (a : Access) (transport : Transport) (done : Option CallError) (r : Request) :
    Except CallError Payload := do
  match transport (← a.prepare done r) with
  | .error reason => throw (.provider (callName r.operation) none reason)
  | .ok reply => readReply r.operation reply

end Access

end Provider

end PlaceGateway
