import PlaceGateway.Proofs.CacheKey.Operations
import PlaceGateway.Proofs.Fetch.Arrivals
import PlaceGateway.Proofs.Fetch.Provenance
import PlaceGateway.Scenario.Service
/-! The cache before the provider. Callers bring requests, and what is fetched under a key is what the
provider answers to a request with that key. -/

namespace PlaceGateway.Fetch

open Flight (CallerId)
open Scenario.Service.State (ofResult)

/-- A caller comes with a request under its key, a fetch function ends in any way, and the store, which
nobody else writes, does what it should or fails. -/
def Event.Fronts (space : KeySpace) (requests : CallerId → Request) : Event → Prop
  | arrive c key kind _ => key = (requests c).key space ∧ kind = (requests c).operation.answerKind
  | lookup _ read | recheck _ read => read = .actual ∨ read = .failed
  | write _ w => w = .kept ∨ w = .failed
  | _ => True

/-- A caller comes with a request under its key, a fetch function asks the provider for what its caller
came for, and the store does what it should or fails. -/
def Event.Serves (space : KeySpace) (access : Provider.Access) (requests : CallerId → Request) :
    Event → Prop
  | arrive c key kind _ => key = (requests c).key space ∧ kind = (requests c).operation.answerKind
  | lookup _ read | recheck _ read => read = .actual ∨ read = .failed
  | finish e outcome => ∃ transport, outcome = ofResult (access.call transport none (requests e))
  | write _ w => w = .kept ∨ w = .failed
  | _ => True

variable {space : KeySpace} {access : Provider.Access} {requests : CallerId → Request}
  {ttl : Option Duration} {trace : List Event} {event : Event} {c e : CallerId} {key : String}
  {caller : Caller} {p : Payload} {s : State}

theorem Event.Fronts.isLocal (fronts : event.Fronts space requests) : event.IsLocal space.kindOf := by
  cases event with
  | arrive c key kind context =>
      obtain ⟨rfl, rfl⟩ := fronts
      exact ⟨trivial, (requests c).kindOf_key space⟩
  | lookup c read => exact ⟨fronts, trivial⟩
  | recheck e read => exact ⟨fronts, trivial⟩
  | write e w => exact ⟨fronts, trivial⟩
  | _ => exact ⟨trivial, trivial⟩

theorem Event.Serves.fronts (serves : event.Serves space access requests) :
    event.Fronts space requests := by
  cases event with
  | finish e outcome => trivial
  | _ => exact serves

theorem Event.Serves.isLocal (serves : event.Serves space access requests) :
    event.IsLocal space.kindOf := serves.fronts.isLocal

theorem Reached.brought (reached : Reached ttl (Event.Fronts space requests) trace s)
    (present : s.callers.get? c = some caller) :
    caller.key = (requests c).key space ∧ caller.kind = (requests c).operation.answerKind := by
  have fronts : (Event.arrive c caller.key caller.kind caller.context).Fronts space requests :=
    reached.allowed _ (reached.arrived present)
  exact fronts

theorem Reached.requested (reached : Reached ttl (Event.Serves space access requests) trace s)
    (present : s.callers.get? c = some caller) : caller.key = (requests c).key space :=
  ((reached.mono fun _ serves => serves.fronts).brought present).1

theorem Reached.begun (reached : Reached ttl (Event.Fronts space requests) trace s)
    (named : s.HasKey e key) : Came trace e ∧ key = (requests e).key space := by
  obtain ⟨kind, context, member⟩ := reached.started named
  have fronts : (Event.arrive e key kind context).Fronts space requests := reached.allowed _ member
  exact ⟨⟨_, _, _, member⟩, fronts.1⟩

theorem Reached.owned (reached : Reached ttl (Event.Serves space access requests) trace s)
    (named : s.HasKey e key) : Came trace e ∧ key = (requests e).key space :=
  (reached.mono fun _ serves => serves.fronts).begun named

theorem Reached.asked_of_finish (reached : Reached ttl (Event.Serves space access requests) trace s)
    {outcome : LoadOutcome} (member : Event.finish e outcome ∈ trace) :
    ∃ transport, outcome = ofResult (access.call transport none (requests e)) :=
  reached.allowed _ member

end PlaceGateway.Fetch
