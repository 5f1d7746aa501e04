import PlaceGateway.Proofs.Fetch.Steps
import PlaceGateway.Proofs.Flight.Sound
import PlaceGateway.Proofs.MemoryStore
/-! The executions of a cache as a machine of their own. It keeps the clock, the store, the keys held,
the executions and their loaders, and forgets who waits for them. -/

namespace PlaceGateway

namespace Fetch

open Flight (CallerId Execution Outcome)

def LoaderPhase.isDone : LoaderPhase → Bool
  | done => true
  | _ => false

def LoadOutcome.result (key : String) : LoadOutcome → Outcome Payload
  | loaded p => if p.isEmpty then .error (.emptyPayload key) else .ok p
  | failed e => .error e
  | panicked m => .error (.internal (.loaderPanicked m))

theorem LoadOutcome.of_result_error {key : String} {err : CallError} {outcome : LoadOutcome}
    (fails : outcome.result key = .error err) :
    outcome = .failed err ∨ (∃ p, outcome = .loaded p ∧ p.isEmpty = true ∧ err = .emptyPayload key) ∨
      ∃ message, outcome = .panicked message ∧ err = .internal (.loaderPanicked message) := by
  cases outcome with
  | loaded p =>
      rw [result] at fails
      split at fails
      · rename_i empty
        cases fails
        exact .inr (.inl ⟨p, rfl, empty, rfl⟩)
      · cases fails
  | failed err =>
      cases fails
      exact .inl rfl
  | panicked message =>
      cases fails
      exact .inr (.inr ⟨message, rfl, rfl⟩)

def Read.payload? (store : MemoryStore) (now : Instant) (key : String) (kind : PayloadKind) :
    Read → Option Payload
  | actual => (ValueStore.found (.ok (store.get now key).2)).bind (Payload.decode? kind)
  | failed => none
  | answered value => (ValueStore.found (.ok value)).bind (Payload.decode? kind)

def Event.loader? : Event → Option CallerId
  | recheck e _ | start e | finish e _ | write e _ | release e => some e
  | _ => none

structure Loads where
  now : Instant
  store : MemoryStore
  ttl : Option Duration
  flights : Table CallerId
  executions : Table (Execution Payload)
  loaders : Table Loader

def State.loads (s : State) : Loads :=
  ⟨s.now, s.store, s.ttl, s.flight.group.flights, s.flight.group.executions, s.loaders⟩

namespace Loads

def conclude (l : Loads) (e : CallerId) (key : String) (kind : PayloadKind) (o : Outcome Payload) :
    Loads :=
  { l with
    executions := l.executions.set e ⟨key, .ending o⟩
    loaders := l.loaders.set e ⟨kind, .done⟩ }

/-- All that an event can do to executions, when callers ask for a key and a kind only as `Asks`
allows. -/
inductive Step (Asks : String → PayloadKind → Prop) (l : Loads) : Event → Loads → Prop where
  | quiet {event : Event} {now : Instant} {store : MemoryStore} (other : event.loader? = none)
      (later : l.now ≤ now) (distinct : store.Distinct) (drops : l.store.Drops l.now store) :
      Step Asks l event { l with now, store }
  | spawn {c : CallerId} {key : String} {kind : PayloadKind} (asked : Asks key kind)
      (free : l.flights.get? key = none) (fresh : l.executions.get? c = none) :
      Step Asks l (.enter c) { l with
        flights := l.flights.set key c
        executions := l.executions.set c ⟨key, .running⟩
        loaders := l.loaders.set c ⟨kind, .spawned⟩ }
  | hit {e : CallerId} {read : Read} {key : String} {kind : PayloadKind} {p : Payload}
      {store : MemoryStore} (loader : l.loaders.get? e = some ⟨kind, .spawned⟩)
      (running : l.executions.get? e = some ⟨key, .running⟩)
      (found : read.payload? l.store l.now key kind = some p) (distinct : store.Distinct)
      (drops : l.store.Drops l.now store) :
      Step Asks l (.recheck e read) ({ l with store }.conclude e key kind (.ok p))
  | miss {e : CallerId} {read : Read} {key : String} {kind : PayloadKind} {store : MemoryStore}
      (loader : l.loaders.get? e = some ⟨kind, .spawned⟩)
      (running : l.executions.get? e = some ⟨key, .running⟩)
      (found : read.payload? l.store l.now key kind = none) (distinct : store.Distinct)
      (drops : l.store.Drops l.now store) :
      Step Asks l (.recheck e read)
        { l with store, loaders := l.loaders.set e ⟨kind, .missed⟩ }
  | start {e : CallerId} {kind : PayloadKind} (loader : l.loaders.get? e = some ⟨kind, .missed⟩) :
      Step Asks l (.start e) { l with loaders := l.loaders.set e ⟨kind, .loading⟩ }
  | load {e : CallerId} {key : String} {p : Payload}
      (loader : l.loaders.get? e = some ⟨p.kind, .loading⟩)
      (running : l.executions.get? e = some ⟨key, .running⟩) (fits : p.size < Payload.sizeLimit)
      (told : p.isEmpty = false) :
      Step Asks l (.finish e (.loaded p))
        { l with loaders := l.loaders.set e ⟨p.kind, .writing p⟩ }
  | fail {e : CallerId} {key : String} {kind : PayloadKind} {outcome : LoadOutcome} {err : CallError}
      (loader : l.loaders.get? e = some ⟨kind, .loading⟩)
      (running : l.executions.get? e = some ⟨key, .running⟩)
      (fails : outcome.result key = .error err) :
      Step Asks l (.finish e outcome) (l.conclude e key kind (.error err))
  | keep {e : CallerId} {key : String} {kind : PayloadKind} {p : Payload} {store : MemoryStore}
      (loader : l.loaders.get? e = some ⟨kind, .writing p⟩)
      (running : l.executions.get? e = some ⟨key, .running⟩)
      (written : l.store.set? l.now key p.encode (ValueStore.lifetime l.ttl) = some store) :
      Step Asks l (.write e .kept) ({ l with store }.conclude e key kind (.ok p))
  | overflow {e : CallerId} {key : String} {kind : PayloadKind} {p : Payload} {message : String}
      (loader : l.loaders.get? e = some ⟨kind, .writing p⟩)
      (running : l.executions.get? e = some ⟨key, .running⟩)
      (late : l.store.set? l.now key p.encode (ValueStore.lifetime l.ttl) = none) :
      Step Asks l (.write e .kept)
        (l.conclude e key kind (.error (.internal (.loaderPanicked message))))
  | pass {e : CallerId} {w : Write} {key : String} {kind : PayloadKind} {p : Payload}
      (loader : l.loaders.get? e = some ⟨kind, .writing p⟩)
      (running : l.executions.get? e = some ⟨key, .running⟩) (unkept : w ≠ .kept) :
      Step Asks l (.write e w) (l.conclude e key kind (.ok p))
  | release {e : CallerId} {key : String} {o : Outcome Payload}
      (ending : l.executions.get? e = some ⟨key, .ending o⟩) :
      Step Asks l (.release e) { l with
        flights := if l.flights.get? key = some e then l.flights.erase key else l.flights
        executions := l.executions.set e ⟨key, .ended o⟩ }

/-- A key is held by its one execution that has not ended, and an execution runs as long as its loader
does. -/
structure Sound (Asks : String → PayloadKind → Prop) (l : Loads) : Prop where
  distinct : l.store.Distinct
  held : ∀ key e, l.flights.get? key = some e →
    ∃ phase, l.executions.get? e = some ⟨key, phase⟩ ∧ phase.isEnded = false
  holds : ∀ e key phase, l.executions.get? e = some ⟨key, phase⟩ → phase.isEnded = false →
    l.flights.get? key = some e
  attended : ∀ e key phase, l.executions.get? e = some ⟨key, phase⟩ →
    ∃ loader, l.loaders.get? e = some loader ∧ Asks key loader.kind ∧
      loader.phase.isDone = !phase.isRunning
  known : ∀ e loader, l.loaders.get? e = some loader → ∃ execution, l.executions.get? e = some execution
  typed : ∀ e kind p, l.loaders.get? e = some ⟨kind, .writing p⟩ →
    p.kind = kind ∧ p.size < Payload.sizeLimit ∧ p.isEmpty = false

variable {Asks : String → PayloadKind → Prop} {l l' : Loads} {e e' key : String}

theorem Sound.running (sound : l.Sound Asks) {loader : Loader} (present : l.loaders.get? e = some loader)
    (active : loader.phase.isDone = false) :
    ∃ key, l.executions.get? e = some ⟨key, .running⟩ ∧ Asks key loader.kind := by
  obtain ⟨⟨key, phase⟩, found⟩ := sound.known e loader present
  obtain ⟨other, same, asked, agrees⟩ := sound.attended e key phase found
  rw [present] at same
  cases same
  rw [active] at agrees
  cases phase with
  | running => exact ⟨key, found, asked⟩
  | ending o => cases agrees
  | ended o => cases agrees

theorem Sound.running_at (sound : l.Sound Asks) {loader : Loader} {execution : Execution Payload}
    (present : l.loaders.get? e = some loader) (active : loader.phase.isDone = false)
    (found : l.executions.get? e = some execution) : execution = ⟨execution.key, .running⟩ := by
  obtain ⟨key, running, _⟩ := sound.running present active
  rw [found] at running
  cases running
  rfl

theorem Sound.unattended (sound : l.Sound Asks) (absent : l.executions.get? e = none) :
    l.loaders.get? e = none := by
  cases found : l.loaders.get? e with
  | none => rfl
  | some loader =>
      obtain ⟨execution, present⟩ := sound.known e loader found
      rw [absent] at present
      cases present

theorem Sound.keys (sound : l.Sound Asks) : Flight.Held l.flights l.executions :=
  ⟨sound.held, sound.holds⟩

theorem Sound.unique (sound : l.Sound Asks) {phase phase' : Flight.Phase Payload}
    (found : l.executions.get? e = some ⟨key, phase⟩) (unended : phase.isEnded = false)
    (found' : l.executions.get? e' = some ⟨key, phase'⟩) (unended' : phase'.isEnded = false) :
    e = e' :=
  sound.keys.unique found unended found' unended'

end Loads

namespace State

variable {s s' : State}

theorem find_snd (s : State) (key : String) (kind : PayloadKind) (read : Read) :
    (s.find key kind read).2 = read.payload? s.store s.now key kind := by
  cases read <;> rfl

theorem find_loads (distinct : s.store.Distinct) (key : String) (kind : PayloadKind) (read : Read) :
    ∃ store, store.Distinct ∧ s.store.Drops s.now store ∧
      (s.find key kind read).1.loads = { s.loads with store } := by
  cases read with
  | actual => exact ⟨_, distinct.get s.now key, MemoryStore.get_drops _ _ _, rfl⟩
  | failed => exact ⟨s.store, distinct, .refl _ _, rfl⟩
  | answered value => exact ⟨s.store, distinct, .refl _ _, rfl⟩

theorem quiet_step {Asks : String → PayloadKind → Prop} {event : Event} {now : Instant}
    {store : MemoryStore} (other : event.loader? = none) (later : s.now ≤ now)
    (distinct : store.Distinct) (drops : s.store.Drops s.now store)
    (same : s'.loads = { s.loads with now, store }) :
    Loads.Step Asks s.loads event s'.loads := by
  rw [same]
  exact .quiet other later distinct drops

theorem check?_loads {c : CallerId} (stepped : s.check? c = some s') : s'.loads = s.loads := by
  obtain ⟨caller, _, _, rfl⟩ := check?_iff.mp stepped
  rfl

theorem lookup?_loads {c : CallerId} {read : Read} (distinct : s.store.Distinct)
    (stepped : s.lookup? c read = some s') :
    ∃ store, store.Distinct ∧ s.store.Drops s.now store ∧ s'.loads = { s.loads with store } := by
  obtain ⟨caller, _, _, rfl⟩ := lookup?_iff.mp stepped
  obtain ⟨store, kept, drops, same⟩ := find_loads distinct caller.key caller.kind read
  refine ⟨store, kept, drops, ?_⟩
  rw [← same]
  cases (s.find caller.key caller.kind read).2 <;> rfl

theorem conclude?_loads {e key : String} {kind : PayloadKind} {loader : Loader} {o : Outcome Payload}
    (running : s.flight.group.executions.get? e = some ⟨key, .running⟩) (own : loader.kind = kind)
    (stepped : s.conclude? e loader o = some s') :
    s'.loads = s.loads.conclude e key kind o := by
  obtain ⟨group, finished, rfl⟩ := Option.map_eq_some_iff.mp stepped
  rw [Flight.Group.finish?, running] at finished
  cases finished
  cases own
  rfl

theorem enter?_loads {Asks : String → PayloadKind → Prop} {c : CallerId} (sound : s.loads.Sound Asks)
    (fresh : ∀ c, s.flight.calls.get? c = none → s.flight.group.executions.get? c = none)
    (asks : ∀ c caller, s.callers.get? c = some caller → Asks caller.key caller.kind)
    (stepped : s.enter? c = some s') : Loads.Step Asks s.loads (.enter c) s'.loads := by
  obtain ⟨caller, flight, present, _, called, rfl⟩ := enter?_iff.mp stepped
  obtain ⟨new, shape⟩ := Flight.State.call?_spec called
  have unused := fresh c new
  have same (flights : flight.group.flights = s.flight.group.flights)
      (executions : flight.group.executions = s.flight.group.executions)
      (now : flight.now = s.flight.now) :
      Loads.Step Asks s.loads (.enter c) (s.attach c caller flight).loads := by
    refine quiet_step rfl (Nat.le_refl _) sound.distinct (.refl _ _) ?_
    rw [attach, executions, unused]
    simp [loads, State.now, setCaller, flights, executions, now]
  rcases shape with ⟨err, _, rfl⟩ | ⟨_, ⟨e, _, rfl⟩ | ⟨free, rfl⟩⟩
  · exact same rfl rfl rfl
  · exact same rfl rfl rfl
  · rw [attach, if_pos (by simp)]
    exact .spawn (asks c caller present) free unused

theorem recheck?_loads {Asks : String → PayloadKind → Prop} {e : CallerId} {read : Read}
    (sound : s.loads.Sound Asks) (stepped : s.recheck? e read = some s') :
    Loads.Step Asks s.loads (.recheck e read) s'.loads := by
  obtain ⟨⟨kind, _⟩, execution, present, found, rfl, reread⟩ := recheck?_iff.mp stepped
  have runs := sound.running_at present rfl found
  rw [runs] at found
  obtain ⟨store, kept, drops, same⟩ := find_loads sound.distinct execution.key kind read
  have value := find_snd s execution.key kind read
  have alike : (s.find execution.key kind read).1.flight.group.executions =
      s.flight.group.executions := congrArg Loads.executions same
  dsimp only at reread
  cases looked : (s.find execution.key kind read).2 with
  | some p =>
      rw [looked] at value reread
      rw [conclude?_loads (alike ▸ found) rfl reread, same]
      exact .hit present found value.symm kept drops
  | none =>
      rw [looked] at value reread
      cases reread
      have after : ((s.find execution.key kind read).1.setLoader e ⟨kind, .spawned⟩ .missed).loads =
          { (s.find execution.key kind read).1.loads with
            loaders := (s.find execution.key kind read).1.loads.loaders.set e ⟨kind, .missed⟩ } := rfl
      rw [after, same]
      exact .miss present found value.symm kept drops

theorem start?_loads {Asks : String → PayloadKind → Prop} {e : CallerId}
    (stepped : s.start? e = some s') : Loads.Step Asks s.loads (.start e) s'.loads := by
  obtain ⟨⟨kind, _⟩, present, rfl, rfl⟩ := start?_iff.mp stepped
  exact .start present

theorem finish?_loads {Asks : String → PayloadKind → Prop} {e : CallerId} {outcome : LoadOutcome}
    (sound : s.loads.Sound Asks) (stepped : s.finish? e outcome = some s') :
    Loads.Step Asks s.loads (.finish e outcome) s'.loads := by
  obtain ⟨⟨kind, _⟩, execution, present, found, rfl, ended⟩ := finish?_iff.mp stepped
  have runs := sound.running_at present rfl found
  rw [runs] at found
  -- An empty payload ends the execution as an error does.
  cases outcome with
  | loaded p =>
      rw [end?] at ended
      split at ended
      · cases ended
      · rename_i possible
        obtain ⟨own, fits⟩ := not_or.mp possible
        have own : p.kind = kind := not_not.mp own
        cases own
        split at ended
        · rename_i empty
          rw [conclude?_loads found rfl ended]
          exact .fail present found (by rw [LoadOutcome.result, if_pos empty])
        · rename_i told
          cases ended
          exact .load present found (Nat.lt_of_not_le fits) (by simpa using told)
  | failed err =>
      rw [conclude?_loads found rfl ended]
      exact .fail present found rfl
  | panicked message =>
      rw [conclude?_loads found rfl ended]
      exact .fail present found rfl

theorem write?_loads {Asks : String → PayloadKind → Prop} {e : CallerId} {w : Write}
    (sound : s.loads.Sound Asks) (stepped : s.write? e w = some s') :
    Loads.Step Asks s.loads (.write e w) s'.loads := by
  obtain ⟨⟨kind, _⟩, execution, p, present, found, rfl, kept⟩ := write?_iff.mp stepped
  have runs := sound.running_at present rfl found
  rw [runs] at found
  cases w with
  | failed =>
      rw [conclude?_loads
        (s := { s with counters := { s.counters with writeErrors := s.counters.writeErrors + 1 } })
        found rfl kept]
      exact .pass present found (by decide)
  | accepted =>
      rw [conclude?_loads found rfl kept]
      exact .pass present found (by decide)
  | kept =>
      rw [keep?] at kept
      split at kept
      · rename_i store written
        rw [conclude?_loads (s := { s with store }) found rfl kept]
        exact .keep present found written
      · rename_i late
        rw [conclude?_loads found rfl kept]
        exact .overflow present found late

theorem release?_loads {Asks : String → PayloadKind → Prop} {e : CallerId}
    (stepped : s.release? e = some s') : Loads.Step Asks s.loads (.release e) s'.loads := by
  obtain ⟨group, released, rfl⟩ := Option.map_eq_some_iff.mp stepped
  rw [Flight.Group.release?] at released
  split at released
  · rename_i found
    cases released
    exact .release found
  · cases released

theorem drop?_loads {c : CallerId} (stepped : s.drop? c = some s') : s'.loads = s.loads := by
  obtain ⟨caller, _, ⟨_, flight, left, rfl⟩ | ⟨_, rfl⟩⟩ := drop?_iff.mp stepped
  · obtain ⟨call, e, _, _, rfl⟩ := Flight.State.drop?_spec left
    rfl
  · rfl

theorem step_loads {Asks : String → PayloadKind → Prop} {event : Event} (sound : s.loads.Sound Asks)
    (fresh : ∀ c, s.flight.calls.get? c = none → s.flight.group.executions.get? c = none)
    (asks : ∀ c caller, s.callers.get? c = some caller → Asks caller.key caller.kind)
    (stepped : s.step event = some s') : Loads.Step Asks s.loads event s'.loads := by
  have unchanged (other : event.loader? = none) (same : s'.loads = s.loads) :
      Loads.Step Asks s.loads event s'.loads :=
    quiet_step other (Nat.le_refl _) sound.distinct (.refl _ _) same
  cases event with
  | token id parent =>
      obtain ⟨flight, made, rfl⟩ := Option.map_eq_some_iff.mp stepped
      obtain ⟨token, _, rfl⟩ := Flight.State.token?_spec made
      exact unchanged rfl rfl
  | cancel id =>
      cases stepped
      exact unchanged rfl rfl
  | advance d =>
      obtain ⟨now, reached, rfl⟩ := Option.map_eq_some_iff.mp stepped
      exact quiet_step rfl (Instant.le_of_add? reached) sound.distinct (.refl _ _) rfl
  | purge =>
      cases stepped
      exact quiet_step rfl (Nat.le_refl _) (sound.distinct.purge _)
        (MemoryStore.purge_drops sound.distinct _) rfl
  | arrive c key kind context =>
      obtain ⟨_, _, rfl⟩ := arrive?_iff.mp stepped
      exact unchanged rfl rfl
  | check c => exact unchanged rfl (check?_loads stepped)
  | lookup c read =>
      obtain ⟨store, kept, drops, same⟩ := lookup?_loads sound.distinct stepped
      exact quiet_step rfl (Nat.le_refl _) kept drops same
  | enter c => exact enter?_loads sound fresh asks stepped
  | recheck e read => exact recheck?_loads sound stepped
  | start e => exact start?_loads stepped
  | finish e outcome => exact finish?_loads sound stepped
  | write e w => exact write?_loads sound stepped
  | release e => exact release?_loads stepped
  | receive c =>
      obtain ⟨flight, received, rfl⟩ := Option.map_eq_some_iff.mp stepped
      obtain ⟨call, e, o, _, _, _, _, rfl⟩ := Flight.State.receive?_spec received
      exact unchanged rfl rfl
  | giveUp c choice =>
      obtain ⟨flight, given, rfl⟩ := Option.map_eq_some_iff.mp stepped
      obtain ⟨call, e, err, _, _, _, rfl⟩ := Flight.State.giveUp?_spec given
      exact unchanged rfl rfl
  | drop c => exact unchanged rfl (drop?_loads stepped)

end State

end Fetch

end PlaceGateway
