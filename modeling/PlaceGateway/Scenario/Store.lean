import PlaceGateway.Scenario.Faults
import PlaceGateway.Series
/-! Scripted runs of the cache store on a clock that moves only when told. -/

namespace PlaceGateway.Scenario.Store

inductive Step where
  | get (key : String)
  | set (key : String) (value : Bytes) (ttl : Option Duration)
  | rawGet (key : String)
  | rawSet (key : String) (value : Bytes) (ttl : Option Duration)
  | delete (key : String)
  | purge
  | advance (d : Duration)
  | healthy
  | rawHealth
  | backend
  | switch (change : FaultChange)
  | janitor (every : Duration)

inductive Reply where
  | nothing
  | value (value : Option Bytes)
  | flag (value : Bool)
  | count (value : Nat)
  | text (value : String)

/-- Purges at whole multiples of its interval. -/
structure Janitor where
  every : Duration
  next : Instant

/-- Without an interval there is nothing that it could do. -/
def Janitor.isFinished (j : Janitor) : Bool := j.every.isZero

structure State where
  now : Instant
  store : MemoryStore
  faults : Faults
  janitors : List Janitor
  readErrors : Nat
  writeErrors : Nat

structure Answer where
  reply : Reply
  size : Nat
  finished : List Bool

namespace State

def initial : State := ⟨0, .empty, .none, [], 0, 0⟩

def sweep (s : State) : State :=
  if s.janitors.any fun j => !j.isFinished && Instant.hasFired s.now j.next then
    { s with
      store := (s.store.purge s.now).1
      janitors := s.janitors.map fun j =>
        if j.isFinished ∨ !Instant.hasFired s.now j.next then j
        else
          let past := Instant.tick s.now * 10 ^ 6 - j.next
          { j with next := j.next + (past / j.every.nanos + 1) * j.every.nanos } }
  else s

def set? (s : State) (key : String) (value : Bytes) (ttl : Option Duration) : Option State :=
  (s.store.set? s.now key value ttl).map fun store => { s with store }

def step (s : State) : Step → Option (State × Reply)
  | .get key =>
    let (faults, read) := s.faults.read
    let s := { s with faults }
    match read with
    | .failed => some ({ s with readErrors := s.readErrors + 1 }, .value none)
    | .answered value => some (s, .value value)
    | .actual =>
      let (store, value) := s.store.get s.now key
      some ({ s with store }, .value (ValueStore.found (.ok value)))
  | .set key value ttl =>
    match s.faults.write with
    | .failed => some ({ s with writeErrors := s.writeErrors + 1 }, .nothing)
    | .accepted => some (s, .nothing)
    | .kept => (s.set? key value (ValueStore.lifetime ttl)).map fun s => (s, .nothing)
  | .rawGet key =>
    let (store, value) := s.store.get s.now key
    some ({ s with store }, .value value)
  | .rawSet key value ttl => (s.set? key value ttl).map fun s => (s, .nothing)
  | .delete key =>
    let (store, existed) := s.store.delete key
    some ({ s with store }, .flag existed)
  | .purge =>
    let (store, count) := s.store.purge s.now
    some ({ s with store }, .count count)
  | .advance d => (Instant.add? s.now d).map fun now => ({ s with now }.sweep, .nothing)
  | .healthy => some (s, .flag s.faults.isHealthy)
  | .rawHealth => some (s, .flag true)
  | .backend => some (s, .text "memory")
  | .switch change => some ({ s with faults := s.faults.change change }, .nothing)
  | .janitor every =>
    some ({ s with janitors := s.janitors ++ [⟨every, s.now + every.nanos⟩] }, .nothing)

def answer (s : State) (reply : Reply) : Answer :=
  ⟨reply, s.store.size, s.janitors.map Janitor.isFinished⟩

def run (s : State) : List Step → Option (List Answer × State)
  | [] => some ([], s)
  | step :: rest => do
    let (s, reply) ← s.step step
    let (answers, last) ← s.run rest
    return (s.answer reply :: answers, last)

def series (s : State) : List (String × Int) :=
  Series.counted [(Series.readErrors, s.readErrors), (Series.writeErrors, s.writeErrors)]

end State

end PlaceGateway.Scenario.Store
