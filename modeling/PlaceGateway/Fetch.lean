import PlaceGateway.Flight
import PlaceGateway.MemoryStore
import PlaceGateway.Place.Protobuf
/-! Read-through caching. A fetch looks its key up and on a miss joins or starts the execution of the
key. The loader of an execution looks the key up again, calls the fetch function, writes what it got,
and only then gives up the key. -/

namespace PlaceGateway.Fetch

open Flight (CallerId Outcome)

inductive CallerPhase where
  | arrived
  | checked
  | missed
  | flying
  | returned (result : Outcome Payload)
  | dropped
  deriving DecidableEq, Repr

structure Caller where
  key : String
  kind : PayloadKind
  context : CallContext
  phase : CallerPhase
  deriving DecidableEq, Repr

inductive LoaderPhase where
  | spawned
  | missed
  | loading
  | writing (payload : Payload)
  | done
  deriving DecidableEq, Repr

structure Loader where
  kind : PayloadKind
  phase : LoaderPhase
  deriving DecidableEq, Repr

inductive LoadOutcome where
  | loaded (payload : Payload)
  | failed (error : CallError)
  | panicked (message : String)
  deriving DecidableEq, Repr

/-- How the backend answers a read: as it should, with an error, or with anything at all. -/
inductive Read where
  | actual
  | failed
  | answered (value : Option Bytes)
  deriving DecidableEq, Repr

/-- How the backend answers a write: as it should, with an error, or with success whatever it did. -/
inductive Write where
  | kept
  | failed
  | accepted
  deriving DecidableEq, Repr

structure Counters where
  hits : Nat
  misses : Nat
  readErrors : Nat
  writeErrors : Nat
  deriving DecidableEq, Repr

structure State where
  flight : Flight.State Payload
  store : MemoryStore
  ttl : Option Duration
  callers : Table Caller
  loaders : Table Loader
  counters : Counters

inductive Event where
  | token (id : TokenId) (parent : Option TokenId)
  | cancel (id : TokenId)
  | advance (d : Duration)
  | purge
  | arrive (c : CallerId) (key : String) (kind : PayloadKind) (context : CallContext)
  | check (c : CallerId)
  | lookup (c : CallerId) (read : Read)
  | enter (c : CallerId)
  | recheck (e : CallerId) (read : Read)
  | start (e : CallerId)
  | finish (e : CallerId) (outcome : LoadOutcome)
  | write (e : CallerId) (write : Write)
  | release (e : CallerId)
  | receive (c : CallerId)
  | giveUp (c : CallerId) (choice : Choice)
  | drop (c : CallerId)

namespace State

def initial (ttl : Option Duration) : State :=
  ⟨.initial, .empty, ttl, .empty, .empty, ⟨0, 0, 0, 0⟩⟩

def now (s : State) : Instant := s.flight.now

def setCaller (s : State) (c : CallerId) (caller : Caller) (phase : CallerPhase) : State :=
  { s with callers := s.callers.set c { caller with phase } }

def setLoader (s : State) (e : CallerId) (loader : Loader) (phase : LoaderPhase) : State :=
  { s with loaders := s.loaders.set e { loader with phase } }

/-- Looks a payload up. Bytes that hold none of the kind are a miss. -/
def find (s : State) (key : String) (kind : PayloadKind) (read : Read) : State × Option Payload :=
  match read with
  | .failed => ({ s with counters := { s.counters with readErrors := s.counters.readErrors + 1 } }, none)
  | .answered value => (s, (ValueStore.found (.ok value)).bind (Payload.decode? kind))
  | .actual =>
    let (store, value) := s.store.get s.now key
    ({ s with store }, (ValueStore.found (.ok value)).bind (Payload.decode? kind))

def arrive? (s : State) (c : CallerId) (key : String) (kind : PayloadKind) (context : CallContext) :
    Option State :=
  if s.callers.contains c || !s.flight.tokens.contains context.token then none
  else some { s with callers := s.callers.set c ⟨key, kind, context, .arrived⟩ }

def check? (s : State) (c : CallerId) : Option State :=
  match s.callers.get? c with
  | some caller =>
    match caller.phase with
    | .arrived =>
      match caller.context.check s.flight.tokens s.now with
      | some e => some (s.setCaller c caller (.returned (.error e)))
      | none => some (s.setCaller c caller .checked)
    | _ => none
  | none => none

def lookup? (s : State) (c : CallerId) (read : Read) : Option State :=
  match s.callers.get? c with
  | some caller =>
    match caller.phase with
    | .checked =>
      let (s, payload) := s.find caller.key caller.kind read
      match payload with
      | some p =>
        let s := s.setCaller c caller (.returned (.ok p))
        some { s with counters := { s.counters with hits := s.counters.hits + 1 } }
      | none =>
        let s := s.setCaller c caller .missed
        some { s with counters := { s.counters with misses := s.counters.misses + 1 } }
    | _ => none
  | none => none

def enter? (s : State) (c : CallerId) : Option State :=
  match s.callers.get? c with
  | some caller =>
    match caller.phase with
    | .missed =>
      (s.flight.call? c caller.key caller.context).map fun flight =>
        let s := { s.setCaller c caller .flying with flight }
        if (flight.group.executions.get? c).isSome then
          { s with loaders := s.loaders.set c ⟨caller.kind, .spawned⟩ }
        else s
    | _ => none
  | none => none

def conclude? (s : State) (e : CallerId) (loader : Loader) (outcome : Outcome Payload) :
    Option State :=
  (s.flight.group.finish? e outcome).map fun group =>
    { s.setLoader e loader .done with flight := { s.flight with group } }

def recheck? (s : State) (e : CallerId) (read : Read) : Option State :=
  match s.loaders.get? e, s.flight.group.executions.get? e with
  | some loader, some execution =>
    match loader.phase with
    | .spawned =>
      let (s, payload) := s.find execution.key loader.kind read
      match payload with
      | some p => s.conclude? e loader (.ok p)
      | none => some (s.setLoader e loader .missed)
    | _ => none
  | _, _ => none

def start? (s : State) (e : CallerId) : Option State :=
  match s.loaders.get? e with
  | some loader =>
    match loader.phase with
    | .missed => some (s.setLoader e loader .loading)
    | _ => none
  | none => none

/-- A fetch function returns payloads of its own kind, and none that memory could not hold. -/
def finish? (s : State) (e : CallerId) (outcome : LoadOutcome) : Option State :=
  match s.loaders.get? e, s.flight.group.executions.get? e with
  | some loader, some execution =>
    match loader.phase with
    | .loading =>
      match outcome with
      | .loaded p =>
        if p.kind ≠ loader.kind ∨ Payload.sizeLimit ≤ p.size then none
        else if p.isEmpty then s.conclude? e loader (.error (.emptyPayload execution.key))
        else some (s.setLoader e loader (.writing p))
      | .failed error => s.conclude? e loader (.error error)
      | .panicked message => s.conclude? e loader (.error (.internal (.loaderPanicked message)))
    | _ => none
  | _, _ => none

/-- A lifetime that the clock does not reach makes the loader panic. -/
def write? (s : State) (e : CallerId) (write : Write) : Option State :=
  match s.loaders.get? e, s.flight.group.executions.get? e with
  | some loader, some execution =>
    match loader.phase with
    | .writing p =>
      match write with
      | .failed =>
        { s with counters := { s.counters with writeErrors := s.counters.writeErrors + 1 } }.conclude?
          e loader (.ok p)
      | .accepted => s.conclude? e loader (.ok p)
      | .kept =>
        match s.store.set? s.now execution.key p.encode (ValueStore.lifetime s.ttl) with
        | some store => { s with store }.conclude? e loader (.ok p)
        | none => s.conclude? e loader
          (.error (.internal (.loaderPanicked "overflow when adding duration to instant")))
    | _ => none
  | _, _ => none

def release? (s : State) (e : CallerId) : Option State :=
  (s.flight.group.release? e).map fun group => { s with flight := { s.flight with group } }

/-- A caller that does not wait yet goes away before its next step. -/
def drop? (s : State) (c : CallerId) : Option State :=
  match s.callers.get? c with
  | some caller =>
    match caller.phase with
    | .flying => (s.flight.drop? c).map fun flight => { s with flight }
    | .returned _ | .dropped => none
    | _ => some (s.setCaller c caller .dropped)
  | none => none

def step (s : State) : Event → Option State
  | .token id parent => (s.flight.token? id parent).map fun flight => { s with flight }
  | .cancel id => some { s with flight := { s.flight with tokens := s.flight.tokens.cancel id } }
  | .advance d => (Instant.add? s.now d).map fun now => { s with flight := { s.flight with now } }
  | .purge => some { s with store := (s.store.purge s.now).1 }
  | .arrive c key kind context => s.arrive? c key kind context
  | .check c => s.check? c
  | .lookup c read => s.lookup? c read
  | .enter c => s.enter? c
  | .recheck e read => s.recheck? e read
  | .start e => s.start? e
  | .finish e outcome => s.finish? e outcome
  | .write e write => s.write? e write
  | .release e => s.release? e
  | .receive c => (s.flight.receive? c).map fun flight => { s with flight }
  | .giveUp c choice => (s.flight.giveUp? c choice).map fun flight => { s with flight }
  | .drop c => s.drop? c

def run (s : State) : List Event → Option State
  | [] => some s
  | event :: rest => (s.step event).bind (·.run rest)

/-- A shared payload of the other kind is a defect. -/
def ofKind (kind : PayloadKind) : Outcome Payload → Outcome Payload
  | .ok p => if p.kind = kind then .ok p else .error (.internal .unexpectedKind)
  | .error e => .error e

def result? (s : State) (c : CallerId) : Option (Outcome Payload) :=
  match s.callers.get? c with
  | some caller =>
    match caller.phase with
    | .returned result => some result
    | .flying => (s.flight.result? c).map (ofKind caller.kind)
    | _ => none
  | none => none

end State

end PlaceGateway.Fetch
