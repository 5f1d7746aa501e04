import PlaceGateway.Metered
import PlaceGateway.Provider.Exchange
import PlaceGateway.Request.Key
import PlaceGateway.Scenario.Fetch
import PlaceGateway.Service
/-! Scripted runs of the endpoints over a client that may be metered, cached, both or neither. The
provider behind it is a script of replies, or out of reach. -/

namespace PlaceGateway.Scenario.Service

open PlaceGateway.Fetch (LoadOutcome Event)
open PlaceGateway.Flight (CallerId)
open PlaceGateway.Scenario.Fetch (attempt attemptRead conclude isLoading settle)

/-- A reply of the script, which may come late or never. The kind of payload is that of the call. -/
structure Reply where
  after : Option Duration
  outcome : Option (PayloadKind → LoadOutcome)

inductive Source where
  | script
  | access (access : Provider.Access)

structure Setup where
  source : Source
  isCached : Bool
  isMetered : Bool
  tellsStore : Bool
  space : KeySpace
  timeout : Option Duration

inductive Step where
  | request (r : HttpRequest)
  | advance (d : Duration)
  | switch (change : FaultChange)

structure Load where
  due : Option Instant
  outcome : LoadOutcome

structure State where
  fetch : Fetch.Run
  meter : Metered.State
  replies : List Reply
  loads : Table Load
  calls : List String

structure Answer where
  response : Option HttpResponse
  calls : List String
  size : Nat

def methodName : Operation → String
  | .searchText => "search_text"
  | .searchRestaurants => "search_restaurants"
  | .getPlace => "get_place"
  | .getRestaurantDetails => "get_restaurant_details"

namespace State

def initial (ttl : Option Duration) (faults : Faults) (replies : List Reply) : State :=
  ⟨⟨.initial ttl, faults⟩, .initial, replies, .empty, []⟩

def now (s : State) : Instant := s.fetch.state.now

def withFetch (s : State) (fetch : Fetch.Run) : State := { s with fetch }

def onFetch (s : State) (event : Event) : State :=
  s.withFetch { s.fetch with state := attempt s.fetch.state event }

def onMeter (s : State) (isMetered : Bool) (event : Metered.Event) : State :=
  if isMetered then { s with meter := (s.meter.step event).getD s.meter } else s

def exhausted : LoadOutcome := .failed (.provider "script" none "no reply left")

def ofResult : Except CallError Payload → LoadOutcome
  | .ok payload => .loaded payload
  | .error e => .failed e

def callSource (s : State) (source : Source) (done : Option CallError) (r : Request) : State × Load :=
  match source with
  | .access access =>
    (s, ⟨some s.now, ofResult (access.call .unreachable done r)⟩)
  | .script =>
    let s := { s with calls := s.calls ++ [methodName r.operation ++ " " ++ r.json.render] }
    match s.replies with
    | [] => (s, ⟨some s.now, exhausted⟩)
    | reply :: rest =>
      let due := s.now + (reply.after.getD .zero).nanos
      match reply.outcome with
      | none => ({ s with replies := rest }, ⟨none, exhausted⟩)
      | some outcome => ({ s with replies := rest }, ⟨some due, outcome r.operation.answerKind⟩)

def isDue (s : State) (load : Load) : Bool := load.due.any (Instant.hasFired s.now)

def endLoads (s : State) : State :=
  let due := s.loads.entries.filter fun entry => s.isDue entry.2
  let ordered := due.mergeSort fun a b => decide (a.2.due.getD 0 ≤ b.2.due.getD 0)
  let s := { s with loads := ⟨s.loads.entries.filter fun entry => !s.isDue entry.2⟩ }
  ordered.foldl (fun s entry =>
    s.withFetch { s.fetch with state := conclude s.fetch entry.1 entry.2.outcome }) s

def settle (s : State) : State :=
  let s := s.endLoads
  s.withFetch { s.fetch with state := Fetch.settle s.fetch.state }

def advance? (s : State) (d : Duration) : Option State :=
  (s.fetch.state.step (.advance d)).map fun state => s.withFetch { s.fetch with state }

def reach? (s : State) (timers : List Instant) : Option State := do
  let first ← (timers.map (Instant.arrival s.now)).min?
  s.advance? (.ofNanos (first - s.now))

/-- The result of a call of its own, which the caller awaits within its context. A panic is no result. -/
def awaitLoad (s : State) (ctx : CallContext) (load : Load) : Nat → Option (State × Except CallError Payload)
  | 0 => none
  | fuel + 1 =>
    match ctx.done? .cancellation s.fetch.state.flight.tokens s.now, s.isDue load with
    | some e, _ => some (s, .error e)
    | none, true =>
      match load.outcome with
      | .loaded payload => some (s, .ok payload)
      | .failed e => some (s, .error e)
      | .panicked _ => none
    | none, false => do
      awaitLoad (← s.reach? (ctx.deadline.toList ++ load.due.toList)) ctx load fuel

def callDirectly (s : State) (source : Source) (ctx : CallContext) (r : Request) :
    Option (State × Except CallError Payload) :=
  let done := ctx.check s.fetch.state.flight.tokens s.now
  let (s, load) := s.callSource source done r
  if load.due = some s.now then
    match load.outcome with
    | .loaded payload => some (s, .ok payload)
    | .failed e => some (s, .error e)
    | .panicked _ => none
  else s.awaitLoad ctx load 2

def awaitFetch (s : State) (c : CallerId) (ctx : CallContext) : Nat → Option (State × Except CallError Payload)
  | 0 => none
  | fuel + 1 =>
    let s := s.settle
    match s.fetch.state.result? c with
    | some result => some (s, result)
    | none => do
      let timers := ctx.deadline.toList ++ s.loads.entries.filterMap fun entry => entry.2.due
      awaitFetch (← s.reach? timers) c ctx fuel

/-- Fetches through the cache. A load has a context of its own. -/
def callCached (s : State) (source : Source) (c : CallerId) (key : String) (ctx : CallContext)
    (r : Request) : Option (State × Except CallError Payload) :=
  let s := (s.onFetch (.arrive c key r.operation.answerKind ctx)).onFetch (.check c)
  let s := (s.withFetch (attemptRead s.fetch (.lookup c))).onFetch (.enter c)
  let s := (s.withFetch (attemptRead s.fetch (.recheck c))).onFetch (.release c)
  let s := s.onFetch (.start c)
  let s :=
    if isLoading s.fetch.state c then
      let (s, load) := s.callSource source none r
      { s with loads := s.loads.set c load }
    else s
  s.awaitFetch c ctx (s.loads.size + 2)

def call (s : State) (setup : Setup) (r : Request) : Option (State × Except CallError Payload) := do
  let c := toString s.fetch.state.flight.tokens.size
  let s := s.onFetch (.token c none)
  let ctx : CallContext := ⟨c, none⟩
  let ctx ← match setup.timeout with
    | some d => ctx.withTimeout? s.now d
    | none => some ctx
  let s := s.onMeter setup.isMetered (.start c r.operation)
  let (s, result) ←
    if setup.isCached then s.callCached setup.source c (r.key setup.space) ctx r
    else s.callDirectly setup.source ctx r
  return (s.onMeter setup.isMetered (.complete c result), result)

def cacheHealth (s : State) (setup : Setup) : Option (Bool × String) :=
  if setup.tellsStore then some (s.fetch.faults.isHealthy, "memory") else none

def step (s : State) (setup : Setup) : Step → Option (State × Option HttpResponse)
  | .advance d => (s.advance? d).map fun s => (s.settle, none)
  | .switch change =>
    some (s.withFetch { s.fetch with faults := s.fetch.faults.change change }, none)
  | .request r =>
    match PlaceGateway.Service.dispatch r with
    | .call request => do
      let (s, result) ← s.call setup request
      return (s.settle, some (PlaceGateway.Service.answer result))
    | _ =>
      let unused := fun _ => .error .cancelled
      some (s, some (PlaceGateway.Service.respond unused (s.cacheHealth setup) r))

def run (s : State) (setup : Setup) : List Step → Option (List Answer × State)
  | [] => some ([], s)
  | next :: rest => do
    let (s, response) ← { s with calls := [] }.step setup next
    let answer : Answer := ⟨response, s.calls, s.fetch.state.store.size⟩
    let (answers, last) ← run s setup rest
    return (answer :: answers, last)

def series (s : State) : List (String × Int) :=
  Series.ofFetches s.fetch.state ++ Series.ofCalls s.meter

end State

end PlaceGateway.Scenario.Service
