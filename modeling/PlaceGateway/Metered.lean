import PlaceGateway.CallError
import PlaceGateway.Place
import PlaceGateway.Request
import PlaceGateway.Table
/-! Counting calls: how many are in flight, how many ended in which way, and how long they took. -/

namespace PlaceGateway.Metered

abbrev CallId := String

inductive Phase where
  | running
  | completed (result : Except CallError Payload)
  | abandoned
  deriving Repr

structure Call where
  operation : Operation
  phase : Phase
  deriving Repr

structure Tally where
  inFlight : Option Int
  durations : Nat
  requests : Table Nat
  deriving Repr

def Tally.none : Tally := ⟨.none, 0, .empty⟩

namespace Tally

def enter (t : Tally) : Tally := { t with inFlight := some (t.inFlight.getD 0 + 1) }

def leave (t : Tally) : Tally := { t with inFlight := some (t.inFlight.getD 0 - 1) }

def record (t : Tally) (status : String) : Tally :=
  { t with
    durations := t.durations + 1
    requests := t.requests.set status ((t.requests.get? status).getD 0 + 1) }

end Tally

/-- How a result is counted: as a success, or under its kind of error. -/
def statusName : Except CallError Payload → String
  | .ok _ => "ok"
  | .error e => e.kind

structure State where
  calls : Table Call
  tally : Operation → Tally

inductive Event where
  | start (id : CallId) (operation : Operation)
  | complete (id : CallId) (result : Except CallError Payload)
  | abandon (id : CallId)

namespace State

def initial : State := ⟨.empty, fun _ => .none⟩

def update (s : State) (operation : Operation) (change : Tally → Tally) : State :=
  { s with tally := fun o => if o = operation then change (s.tally o) else s.tally o }

def setPhase (s : State) (id : CallId) (call : Call) (phase : Phase) : State :=
  { s with calls := s.calls.set id { call with phase } }

def running? (s : State) (id : CallId) : Option Call :=
  match s.calls.get? id with
  | some ⟨operation, .running⟩ => some ⟨operation, .running⟩
  | _ => none

def step (s : State) : Event → Option State
  | .start id operation =>
    if s.calls.contains id then none
    else some { s.update operation Tally.enter with calls := s.calls.set id ⟨operation, .running⟩ }
  | .complete id result =>
    (s.running? id).map fun call =>
      (s.setPhase id call (.completed result)).update call.operation fun t =>
        (t.record (statusName result)).leave
  | .abandon id =>
    (s.running? id).map fun call =>
      (s.setPhase id call .abandoned).update call.operation Tally.leave

def run (s : State) : List Event → Option State
  | [] => some s
  | event :: rest => (s.step event).bind (·.run rest)

def result? (s : State) (id : CallId) : Option (Except CallError Payload) :=
  match s.calls.get? id with
  | some ⟨_, .completed result⟩ => some result
  | _ => none

end State

end PlaceGateway.Metered
