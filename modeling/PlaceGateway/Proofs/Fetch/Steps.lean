import PlaceGateway.Fetch
/-! What each step of a cache needs and the state that it makes, to the last field. Both directions of each
statement are used: what has happened, and what can happen. -/

namespace PlaceGateway.Fetch

open Flight (CallerId Execution Outcome)

def CallerPhase.isEarly : CallerPhase → Bool
  | arrived | checked | missed => true
  | _ => false

def CallerPhase.ofCheck : Option CallError → CallerPhase
  | some err => returned (.error err)
  | none => checked

namespace State

variable {s s' : State} {c e : CallerId}

def answer (s : State) (c : CallerId) (caller : Caller) : Option Payload → State
  | some p => { s.setCaller c caller (.returned (.ok p)) with
      counters := { s.counters with hits := s.counters.hits + 1 } }
  | none => { s.setCaller c caller .missed with
      counters := { s.counters with misses := s.counters.misses + 1 } }

def attach (s : State) (c : CallerId) (caller : Caller) (flight : Flight.State Payload) : State :=
  { s.setCaller c caller .flying with
    flight
    loaders := if (flight.group.executions.get? c).isSome then s.loaders.set c ⟨caller.kind, .spawned⟩
      else s.loaders }

def reread? (s : State) (e : CallerId) (loader : Loader) : Option Payload → Option State
  | some p => s.conclude? e loader (.ok p)
  | none => some (s.setLoader e loader .missed)

def end? (s : State) (e : CallerId) (loader : Loader) (key : String) : LoadOutcome → Option State
  | .loaded p =>
    if p.kind ≠ loader.kind ∨ Payload.sizeLimit ≤ p.size then none
    else if p.isEmpty then s.conclude? e loader (.error (.emptyPayload key))
    else some (s.setLoader e loader (.writing p))
  | .failed error => s.conclude? e loader (.error error)
  | .panicked message => s.conclude? e loader (.error (.internal (.loaderPanicked message)))

def keep? (s : State) (e : CallerId) (loader : Loader) (key : String) (p : Payload) : Write → Option State
  | .failed => { s with counters := { s.counters with writeErrors := s.counters.writeErrors + 1 } }.conclude?
      e loader (.ok p)
  | .accepted => s.conclude? e loader (.ok p)
  | .kept =>
    match s.store.set? s.now key p.encode (ValueStore.lifetime s.ttl) with
    | some store => { s with store }.conclude? e loader (.ok p)
    | none => s.conclude? e loader
      (.error (.internal (.loaderPanicked "overflow when adding duration to instant")))

/-- What the loader of the execution does to the state, it does to the view of it. -/
structure Follows (view : State → State) (e : CallerId) : Prop where
  advance : ∀ s loader phase, (view s).setLoader e loader phase = view (s.setLoader e loader phase)
  conclude : ∀ s loader o, (view s).conclude? e loader o = (s.conclude? e loader o).map view

theorem Follows.reread? {view : State → State} (follows : Follows view e) (s : State) (loader : Loader)
    (payload : Option Payload) :
    (view s).reread? e loader payload = (s.reread? e loader payload).map view := by
  cases payload with
  | none => exact congrArg some (follows.advance s loader .missed)
  | some p => exact follows.conclude s loader (.ok p)

theorem Follows.end? {view : State → State} (follows : Follows view e) (s : State) (loader : Loader)
    (key : String) (outcome : LoadOutcome) :
    (view s).end? e loader key outcome = (s.end? e loader key outcome).map view := by
  cases outcome with
  | loaded p =>
    rw [State.end?, State.end?]
    split
    · rfl
    · split
      · exact follows.conclude s loader _
      · exact congrArg some (follows.advance s loader _)
  | failed err => exact follows.conclude s loader _
  | panicked message => exact follows.conclude s loader _

theorem arrive?_iff {key : String} {kind : PayloadKind} {context : CallContext} :
    s.arrive? c key kind context = some s' ↔ s.callers.contains c = false ∧
      s.flight.tokens.contains context.token = true ∧
        s' = { s with callers := s.callers.set c ⟨key, kind, context, .arrived⟩ } := by
  rw [arrive?]
  cases s.callers.contains c <;> cases s.flight.tokens.contains context.token <;> simp [eq_comm]

theorem check?_iff : s.check? c = some s' ↔ ∃ caller, s.callers.get? c = some caller ∧
    caller.phase = .arrived ∧
      s' = s.setCaller c caller (.ofCheck (caller.context.check s.flight.tokens s.now)) := by
  rw [check?]
  cases s.callers.get? c with
  | none => simp
  | some caller =>
    obtain ⟨key, kind, context, phase⟩ := caller
    cases phase with
    | arrived =>
      dsimp only
      cases done : context.check s.flight.tokens s.now <;> simp [CallerPhase.ofCheck, done, eq_comm (a := s')]
    | _ => simp

theorem lookup?_iff {read : Read} : s.lookup? c read = some s' ↔ ∃ caller, s.callers.get? c = some caller ∧
    caller.phase = .checked ∧
      s' = (s.find caller.key caller.kind read).1.answer c caller (s.find caller.key caller.kind read).2 := by
  rw [lookup?]
  cases s.callers.get? c with
  | none => simp
  | some caller =>
    obtain ⟨key, kind, context, phase⟩ := caller
    cases phase with
    | checked =>
      dsimp only
      cases found : (s.find key kind read).2 <;> simp [answer, found, setCaller, eq_comm (a := s')]
    | _ => simp

theorem enter?_iff : s.enter? c = some s' ↔ ∃ caller flight, s.callers.get? c = some caller ∧
    caller.phase = .missed ∧ s.flight.call? c caller.key caller.context = some flight ∧
      s' = s.attach c caller flight := by
  rw [enter?]
  cases s.callers.get? c with
  | none => simp
  | some caller =>
    obtain ⟨key, kind, context, phase⟩ := caller
    cases phase with
    | missed =>
      dsimp only
      cases called : s.flight.call? c key context with
      | none => simp [called]
      | some flight =>
        cases own : (flight.group.executions.get? c).isSome <;>
          simp [attach, setCaller, called, own, eq_comm (a := s')]
    | _ => simp

theorem recheck?_iff {read : Read} : s.recheck? e read = some s' ↔ ∃ loader execution,
    s.loaders.get? e = some loader ∧ s.flight.group.executions.get? e = some execution ∧
      loader.phase = .spawned ∧
        (s.find execution.key loader.kind read).1.reread? e loader (s.find execution.key loader.kind read).2 =
          some s' := by
  rw [recheck?]
  cases s.loaders.get? e with
  | none => simp
  | some loader =>
    cases s.flight.group.executions.get? e with
    | none => simp
    | some execution =>
      obtain ⟨kind, phase⟩ := loader
      cases phase with
      | spawned =>
        dsimp only
        cases found : (s.find execution.key kind read).2 <;> simp [reread?, found]
      | _ => simp

theorem start?_iff : s.start? e = some s' ↔ ∃ loader, s.loaders.get? e = some loader ∧
    loader.phase = .missed ∧ s' = s.setLoader e loader .loading := by
  rw [start?]
  cases s.loaders.get? e with
  | none => simp
  | some loader =>
    obtain ⟨kind, phase⟩ := loader
    cases phase <;> simp [eq_comm]

theorem finish?_iff {outcome : LoadOutcome} : s.finish? e outcome = some s' ↔ ∃ loader execution,
    s.loaders.get? e = some loader ∧ s.flight.group.executions.get? e = some execution ∧
      loader.phase = .loading ∧ s.end? e loader execution.key outcome = some s' := by
  rw [finish?]
  cases s.loaders.get? e with
  | none => simp
  | some loader =>
    cases s.flight.group.executions.get? e with
    | none => simp
    | some execution =>
      obtain ⟨kind, phase⟩ := loader
      cases phase with
      | loading => cases outcome <;> simp [end?]
      | _ => simp

theorem write?_iff {write : Write} : s.write? e write = some s' ↔ ∃ loader execution p,
    s.loaders.get? e = some loader ∧ s.flight.group.executions.get? e = some execution ∧
      loader.phase = .writing p ∧ s.keep? e loader execution.key p write = some s' := by
  rw [write?]
  cases s.loaders.get? e with
  | none => simp
  | some loader =>
    cases s.flight.group.executions.get? e with
    | none => simp
    | some execution =>
      obtain ⟨kind, phase⟩ := loader
      cases phase with
      | writing p =>
        cases write with
        | kept =>
          cases written : s.store.set? s.now execution.key p.encode (ValueStore.lifetime s.ttl) <;>
            simp [keep?, written]
        | _ => simp [keep?]
      | _ => simp

theorem drop?_iff : s.drop? c = some s' ↔ ∃ caller, s.callers.get? c = some caller ∧
    (caller.phase = .flying ∧ (∃ flight, s.flight.drop? c = some flight ∧ s' = { s with flight }) ∨
      caller.phase.isEarly = true ∧ s' = s.setCaller c caller .dropped) := by
  rw [drop?]
  cases s.callers.get? c with
  | none => simp
  | some caller =>
    obtain ⟨key, kind, context, phase⟩ := caller
    cases phase <;> simp [CallerPhase.isEarly, Option.map_eq_some_iff, eq_comm (a := s')]

end State

end PlaceGateway.Fetch
