import PlaceGateway.MemoryStore
import PlaceGateway.Redis.Address
import PlaceGateway.Redis.Store
import PlaceGateway.Series
/-! Scripted runs of the Redis cache when its server is out of reach. -/

namespace PlaceGateway.Scenario.Redis

open PlaceGateway.Redis

inductive Step where
  | tryConnect
  | wait
  | waitFailed
  | get (key : String)
  | set (key : String) (value : Bytes) (ttl : Option Duration)
  | rawGet (key : String)
  | rawSet (key : String) (value : Bytes) (ttl : Option Duration)
  | delete (key : String)
  | healthy
  | rawHealth
  | backend

inductive Answer where
  | nothing
  | value (value : Option Bytes)
  | flag (value : Bool)
  | text (value : String)
  | failed (error : CacheError)

/-- Where the only attempt to connect within the reconnect interval stands. -/
inductive Attempt where
  | due
  | background
  | over
  deriving DecidableEq, Repr

structure State where
  url : String
  connectionTimeout : Duration
  persistence : Duration
  attempt : Attempt
  readErrors : Nat
  writeErrors : Nat

namespace State

/-- The longest pauses between the tries of an attempt, in milliseconds. Each pause is drawn at random
up to its bound, so nothing but a draw tells whether the tries or the connection timeout end first. -/
def longestPauses : List Nat := [200, 400, 800, 1600, 3200, 6400]

/-- A scripted run draws the mean of each pause. -/
def meanPersistence : Duration := .ofMillis ((longestPauses.map (· / 2)).foldl (· + ·) 0)

def patience : Duration := .ofMillis 3000

def initial? (url : String) (connectionTimeout : Duration) : Option State :=
  match Address.ofText url with
  | .ok _ => some ⟨url, connectionTimeout, meanPersistence, .due, 0, 0⟩
  | .error _ => none

/-- An operation without a connection starts the attempt when it is due. -/
def touch (s : State) : State := if s.attempt = .due then { s with attempt := .background } else s

def outcome {α : Type} (f : α → Answer) : Except CacheError α → Answer
  | .ok a => f a
  | .error e => .failed e

def connectError (s : State) : CacheError :=
  if s.connectionTimeout.nanos ≤ s.persistence.nanos then .timeout else .redis "connection refused"

def failureLog (s : State) : List String :=
  if s.attempt = .background then ["WARN " ++ Address.redacted s.url] else []

def giveUp (s : State) : State := if s.attempt = .background then { s with attempt := .over } else s

def step (s : State) : Step → State × Answer × List String
  | .tryConnect =>
    ({ s with attempt := .over }, .failed s.connectError, s.failureLog)
  | .wait =>
    if min s.connectionTimeout.nanos s.persistence.nanos ≤ patience.nanos then (s.giveUp, .nothing, s.failureLog)
    else (s, .nothing, [])
  | .waitFailed => (s.giveUp, .nothing, s.failureLog)
  | .get key =>
    let answer := Store.get .none key
    let errors := if ValueStore.isError answer then 1 else 0
    ({ s.touch with readErrors := s.readErrors + errors }, .value (ValueStore.found answer), [])
  | .set key value ttl =>
    let answer := Store.set .none key value (ValueStore.lifetime ttl)
    let errors := if ValueStore.isError answer then 1 else 0
    ({ s.touch with writeErrors := s.writeErrors + errors }, .nothing, [])
  | .rawGet key => (s.touch, outcome .value (Store.get .none key), [])
  | .rawSet key value ttl => (s.touch, outcome (fun _ => .nothing) (Store.set .none key value ttl), [])
  | .delete key => (s.touch, outcome .flag (Store.delete .none key), [])
  | .healthy => (s.touch, .flag ((Store.health .none).toOption.getD false), [])
  | .rawHealth => (s.touch, outcome .flag (Store.health .none), [])
  | .backend => (s, .text "redis", [])

def run (s : State) : List Step → List (Answer × List String) × State
  | [] => ([], s)
  | next :: rest =>
    let (s, answer, log) := s.step next
    let (answers, last) := s.run rest
    ((answer, log) :: answers, last)

def series (s : State) : List (String × Int) :=
  Series.counted [(Series.readErrors, s.readErrors), (Series.writeErrors, s.writeErrors)]

end State

end PlaceGateway.Scenario.Redis
