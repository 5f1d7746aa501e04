import PlaceGateway.Scenario.Faults
import PlaceGateway.Scenario.Flight
import PlaceGateway.Series
/-! Scripted runs of fetches through the cache. -/

namespace PlaceGateway.Scenario.Fetch

open PlaceGateway.Fetch
open PlaceGateway.Flight (CallerId Outcome)
open PlaceGateway.Scenario.Flight (ContextPlan Result)

inductive Step where
  | fetch (c : CallerId) (key : String) (kind : PayloadKind) (plan : ContextPlan)
      (out : Option LoadOutcome)
  | release (e : CallerId) (out : LoadOutcome)
  | cancel (c : CallerId)
  | drop (c : CallerId)
  | advance (d : Duration)
  | put (key : String) (value : Bytes) (ttl : Option Duration)
  | stored (key : String)
  | delete (key : String)
  | purge
  | switch (change : FaultChange)

inductive Reply where
  | nothing
  | value (value : Option Bytes)
  | flag (value : Bool)
  | count (value : Nat)

structure Answer where
  log : List String
  results : List (CallerId × Result Payload)
  waiting : Nat
  inFlight : Nat
  reply : Reply
  size : Nat

structure Run where
  state : State
  faults : Faults

def result? (s : State) (c : CallerId) : Option (Result Payload) :=
  match s.result? c with
  | some r => some (.returned r)
  | none =>
    match s.callers.get? c, s.flight.calls.get? c with
    | some ⟨_, _, _, .dropped⟩, _ => some .dropped
    | _, some ⟨_, _, .dropped⟩ => some .dropped
    | _, _ => none

def ended (before after : State) : List (CallerId × Result Payload) :=
  let new := after.callers.keys.filterMap fun c =>
    if (result? before c).isSome then none else (result? after c).map fun r => (c, r)
  new.mergeSort fun a b => decide (a.1 ≤ b.1)

def attempt (s : State) (event : Event) : State := (s.step event).getD s

def attemptRead (r : Run) (event : Read → Event) : Run :=
  let (faults, read) := r.faults.read
  match r.state.step (event read) with
  | some state => ⟨state, faults⟩
  | none => r

def settle (s : State) : State :=
  s.callers.keys.foldl (fun s c => attempt (attempt s (.giveUp c .cancellation)) (.receive c)) s

def isLoading (s : State) (e : CallerId) : Bool :=
  match s.loaders.get? e with
  | some ⟨_, .loading⟩ => true
  | _ => false

def conclude (r : Run) (e : CallerId) (out : LoadOutcome) : State :=
  attempt (attempt (attempt r.state (.finish e out)) (.write e r.faults.write)) (.release e)

def loaded (e : CallerId) : String := "loaded " ++ e ++ " with a fresh context"

def step (r : Run) : Step → Option (Run × List String × Reply)
  | .fetch c key kind plan out => do
    let s := r.state
    let parent := (plan.childOf.bind s.callers.get?).map Caller.context
    let ctx ← plan.context? s.now c parent
    let s := attempt s (.token c (parent.map CallContext.token))
    let s := if plan.cancelled then attempt s (.cancel c) else s
    let s := attempt (attempt s (.arrive c key kind ctx)) (.check c)
    let r := attemptRead { r with state := s } (.lookup c)
    let r := attemptRead { r with state := attempt r.state (.enter c) } (.recheck c)
    let s := attempt (attempt r.state (.release c)) (.start c)
    let r := { r with state := s }
    if isLoading s c then
      match out with
      | some out => return ({ r with state := conclude r c out }, ["load " ++ c, loaded c], .nothing)
      | none => return (r, ["load " ++ c], .nothing)
    else return (r, [], .nothing)
  | .release e out =>
    if isLoading r.state e then some ({ r with state := conclude r e out }, [loaded e], .nothing)
    else some (r, ["no load " ++ e], .nothing)
  | .cancel c =>
    some (if r.state.callers.contains c then { r with state := attempt r.state (.cancel c) } else r,
      [], .nothing)
  | .drop c => some ({ r with state := attempt r.state (.drop c) }, [], .nothing)
  | .advance d => (r.state.step (.advance d)).map fun state => ({ r with state }, [], .nothing)
  | .put key value ttl =>
    (r.state.store.set? r.state.now key value ttl).map fun store =>
      ({ r with state := { r.state with store } }, [], .nothing)
  | .stored key =>
    let (store, value) := r.state.store.get r.state.now key
    some ({ r with state := { r.state with store } }, [], .value value)
  | .delete key =>
    let (store, existed) := r.state.store.delete key
    some ({ r with state := { r.state with store } }, [], .flag existed)
  | .purge =>
    let (store, count) := r.state.store.purge r.state.now
    some ({ r with state := { r.state with store } }, [], .count count)
  | .switch change => some ({ r with faults := r.faults.change change }, [], .nothing)

def answer (before after : State) (log : List String) (reply : Reply) : Answer where
  log
  results := ended before after
  waiting := (after.callers.keys.filter fun c => (result? after c).isNone).length
  inFlight := after.flight.group.inFlight
  reply
  size := after.store.size

def run (r : Run) : List Step → Option (List Answer × Run)
  | [] => some ([], r)
  | next :: rest => do
    let (after, log, reply) ← step r next
    let after := { after with state := settle after.state }
    let (answers, last) ← run after rest
    return (answer r.state after.state log reply :: answers, last)

end PlaceGateway.Scenario.Fetch
