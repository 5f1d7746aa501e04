import PlaceGateway.Proofs.Fetch.Arrivals
import PlaceGateway.Proofs.Fetch.FailOpen
/-! A caller that stays, and whose context is good, can come to a result by steps of its own and of one
loader. -/

namespace PlaceGateway.Fetch

open Flight (Call CallerId)

def State.HasLeft (s : State) (c : CallerId) : Prop :=
  (∃ caller, s.callers.get? c = some caller ∧ caller.phase = .dropped) ∨
    ∃ call, s.flight.calls.get? c = some call ∧ call.phase = .dropped

def Event.Leads (c : CallerId) (outcome : CallerId → LoadOutcome) : Event → Prop
  | check d | enter d | receive d => d = c
  | lookup d read => d = c ∧ read = .actual
  | recheck _ read => read = .actual
  | start _ | release _ => True
  | finish e own => own = outcome e
  | write _ w => w = .kept
  | token .. | cancel _ | advance _ | purge | arrive .. | giveUp .. | drop _ => False

def State.Returns (s : State) (c : CallerId) (outcome : CallerId → LoadOutcome) : Prop :=
  ∃ more s' caller r, (∀ event ∈ more, event.Leads c outcome) ∧ s.run more = some s' ∧
    s'.callers.get? c = some caller ∧
    caller.context.check s'.flight.tokens s'.now = none ∧ s'.result? c = some r

variable {trace more : List Event} {event : Event} {ttl : Option Duration} {c e : CallerId}
  {outcome : CallerId → LoadOutcome} {caller : Caller} {call : Call Payload} {s s' : State}

theorem State.Returns.step (returns : s'.Returns c outcome) (stepped : s.step event = some s')
    (leads : event.Leads c outcome) : s.Returns c outcome := by
  obtain ⟨more, last, caller, r, all, run, rest⟩ := returns
  refine ⟨event :: more, last, caller, r, ?_, ?_, rest⟩
  · intro later member
    rcases List.mem_cons.mp member with rfl | after
    · exact leads
    · exact all later after
  · rw [State.run, stepped]
    exact run

theorem State.Returns.run (returns : s'.Returns c outcome) (run : s.run more = some s')
    (leads : ∀ event ∈ more, event.Leads c outcome) : s.Returns c outcome := by
  induction more generalizing s with
  | nil =>
      cases run
      exact returns
  | cons event more ih =>
      rw [State.run, Option.bind_eq_some_iff] at run
      obtain ⟨next, stepped, run⟩ := run
      have later := ih run (fun later member => leads later (List.mem_cons_of_mem event member))
      exact later.step stepped (leads event List.mem_cons_self)

theorem State.returns_of_result {r : Flight.Outcome Payload} (present : s.callers.get? c = some caller)
    (going : caller.context.check s.flight.tokens s.now = none) (result : s.result? c = some r) :
    s.Returns c outcome :=
  ⟨[], s, caller, r, fun _ member => absurd member List.not_mem_nil, rfl, present, going, result⟩

theorem Reached.loads (reached : Reached ttl (fun _ => True) trace s)
    (loader : ∀ event ∈ more, event.loader? = some e) (run : s.run more = some s') :
    s'.calls = s.calls ∧ s'.now = s.now := by
  induction more generalizing trace s with
  | nil =>
      cases run
      exact ⟨rfl, rfl⟩
  | cons event more ih =>
      rw [State.run, Option.bind_eq_some_iff] at run
      obtain ⟨next, stepped, run⟩ := run
      have own := loader event List.mem_cons_self
      obtain ⟨calls, now⟩ := ih (reached.step trivial stepped)
        (fun later member => loader later (List.mem_cons_of_mem event member)) run
      have step := (reached.moves stepped).1
      exact ⟨calls.trans (State.loader_calls own stepped), now.trans (step.now_eq own)⟩

/-- The execution that a caller waits on can come to its end before time passes, and the caller takes what
it ends with. -/
theorem Reached.takes_of_waiting (reached : Reached ttl (fun _ => True) trace s)
    (present : s.callers.get? c = some caller)
    (going : caller.context.check s.flight.tokens s.now = none)
    (called : s.flight.calls.get? c = some call) (waits : call.phase = .waiting e)
    (possible : ∀ e p, outcome e ≠ .loaded p) :
    ∃ more s' r, (∀ event ∈ more, event.Leads c outcome) ∧ s.run more = some s' ∧ s'.now = s.now ∧
      s'.callers.get? c = some caller ∧ caller.context.check s'.flight.tokens s'.now = none ∧
      s'.result? c = some r := by
  obtain ⟨loads, calls⟩ := reached.isSound
  obtain ⟨phase, found⟩ := calls.attached c call e called waits
  obtain ⟨⟨kind, loader⟩, attends, _⟩ := loads.attended e call.key phase found
  obtain ⟨more, last, o, part, run, ended⟩ := reached.completes ⟨phase, found⟩ attends .actual .kept
    (fun p same => absurd same (possible e p))
  have own (event : Event) (member : event ∈ more) :
      event.loader? = some e ∧ event.Leads c outcome := by
    have listed := part.subset member
    simp only [List.mem_cons, List.not_mem_nil, or_false] at listed
    rcases listed with rfl | rfl | rfl | rfl | rfl
    · exact ⟨rfl, rfl⟩
    · exact ⟨rfl, trivial⟩
    · exact ⟨rfl, rfl⟩
    · exact ⟨rfl, rfl⟩
    · exact ⟨rfl, trivial⟩
  obtain ⟨same, now⟩ := reached.loads (fun event member => (own event member).1) run
  have tokens : last.flight.tokens = s.flight.tokens := congrArg Calls.tokens same
  have callers : last.callers = s.callers := congrArg Calls.callers same
  have lastCalls : last.flight.calls = s.flight.calls := congrArg Calls.calls same
  have good : caller.context.check last.flight.tokens last.now = none := by rwa [tokens, now]
  obtain ⟨_, _, context⟩ := calls.flying present called
  have after := reached.extend (fun _ _ => trivial) run
  have still : last.callers.get? c = some caller := by rwa [callers]
  obtain ⟨received, result⟩ := after.receives still (by rwa [lastCalls]) waits
    (context ▸ CallContext.done?_of_check good .cancellation) ended
  refine ⟨more ++ [.receive c], { last with flight := last.flight.setPhase c call (.returned o) }, _,
    ?_, ?_, now, still, good, result⟩
  · exact List.forall_mem_append.mpr
      ⟨fun event member => (own event member).2, List.forall_mem_singleton.mpr rfl⟩
  · rw [State.run_concat, run, Option.bind_some, received]

theorem Reached.returns_of_waiting (reached : Reached ttl (fun _ => True) trace s)
    (present : s.callers.get? c = some caller)
    (going : caller.context.check s.flight.tokens s.now = none)
    (called : s.flight.calls.get? c = some call) (waits : call.phase = .waiting e)
    (possible : ∀ e p, outcome e ≠ .loaded p) : s.Returns c outcome := by
  obtain ⟨more, last, r, leads, run, _, still, good, result⟩ :=
    reached.takes_of_waiting present going called waits possible
  exact (State.returns_of_result still good result).run run leads

theorem State.enter?_eq (present : s.callers.get? c = some caller) (missed : caller.phase = .missed)
    (new : s.flight.calls.get? c = none)
    (known : s.flight.tokens.contains caller.context.token = true)
    (going : caller.context.check s.flight.tokens s.now = none) :
    ∃ s' e, s.enter? c = some s' ∧ s'.callers.get? c = some { caller with phase := .flying } ∧
      s'.flight.calls.get? c = some ⟨caller.key, caller.context, .waiting e⟩ ∧
      s'.flight.tokens = s.flight.tokens ∧ s'.now = s.now := by
  exact ⟨_, (s.flight.group.enter c caller.key).2,
    enter?_iff.mpr ⟨caller, _, present, missed, Flight.State.call?_eq new known going, rfl⟩,
    by simp [attach, setCaller], by simp [attach], rfl, rfl⟩

theorem Reached.returns_of_missed (reached : Reached ttl (fun _ => True) trace s)
    (present : s.callers.get? c = some caller)
    (going : caller.context.check s.flight.tokens s.now = none) (missed : caller.phase = .missed)
    (possible : ∀ e p, outcome e ≠ .loaded p) : s.Returns c outcome := by
  obtain ⟨_, calls⟩ := reached.isSound
  have new := calls.free present (by simp [missed])
  obtain ⟨s', e, entered, present', called, tokens, now⟩ :=
    State.enter?_eq present missed new (reached.known present) going
  have stepped : s.step (.enter c) = some s' := entered
  have good : caller.context.check s'.flight.tokens s'.now = none := by rwa [tokens, now]
  exact ((reached.step trivial stepped).returns_of_waiting present' good called rfl possible).step stepped
    rfl

theorem Reached.returns_of_checked (reached : Reached ttl (fun _ => True) trace s)
    (present : s.callers.get? c = some caller)
    (going : caller.context.check s.flight.tokens s.now = none) (checked : caller.phase = .checked)
    (possible : ∀ e p, outcome e ≠ .loaded p) : s.Returns c outcome := by
  obtain ⟨store, counters, same⟩ := State.find_fst s caller.key caller.kind .actual
  have stepped : s.step (.lookup c .actual) = some (State.answer { s with store, counters } c caller
      (s.find caller.key caller.kind .actual).2) := by
    rw [← same]
    change s.lookup? c .actual = _
    exact State.lookup?_iff.mpr ⟨caller, present, checked, rfl⟩
  cases value : (s.find caller.key caller.kind .actual).2 with
  | some p =>
      rw [value] at stepped
      have present' : (State.answer { s with store, counters } c caller (some p)).callers.get? c =
          some { caller with phase := .returned (.ok p) } := by
        simp [State.answer, State.setCaller]
      exact (State.returns_of_result present' going (by rw [State.result?, present'])).step stepped ⟨rfl, rfl⟩
  | none =>
      rw [value] at stepped
      have present' : (State.answer { s with store, counters } c caller none).callers.get? c =
          some { caller with phase := .missed } := by
        simp [State.answer, State.setCaller]
      exact ((reached.step trivial stepped).returns_of_missed present' going rfl possible).step stepped
        ⟨rfl, rfl⟩

theorem Reached.returns_of_arrived (reached : Reached ttl (fun _ => True) trace s)
    (present : s.callers.get? c = some caller)
    (going : caller.context.check s.flight.tokens s.now = none) (arrived : caller.phase = .arrived)
    (possible : ∀ e p, outcome e ≠ .loaded p) : s.Returns c outcome := by
  have stepped : s.step (.check c) = some (s.setCaller c caller .checked) :=
    State.check?_iff.mpr ⟨caller, present, arrived, by rw [going, CallerPhase.ofCheck]⟩
  have present' : (s.setCaller c caller .checked).callers.get? c = some { caller with phase := .checked } := by
    simp [State.setCaller]
  exact ((reached.step trivial stepped).returns_of_checked present' going rfl possible).step stepped rfl

theorem Reached.returns (reached : Reached ttl (fun _ => True) trace s)
    (present : s.callers.get? c = some caller)
    (going : caller.context.check s.flight.tokens s.now = none) (stays : ¬ s.HasLeft c)
    (possible : ∀ e p, outcome e ≠ .loaded p) : s.Returns c outcome := by
  -- The phases lead to one another, and the last of them to a caller that waits or has its result.
  cases own : caller.phase with
  | arrived => exact reached.returns_of_arrived present going own possible
  | checked => exact reached.returns_of_checked present going own possible
  | missed => exact reached.returns_of_missed present going own possible
  | flying =>
      obtain ⟨⟨key, context, phase⟩, called⟩ := reached.flies c caller present own
      cases phase with
      | waiting e => exact reached.returns_of_waiting present going called rfl possible
      | returned r =>
          have result : s.result? c = some (State.ofKind caller.kind r) := by
            rw [State.result?, present]
            dsimp only
            rw [own, Flight.State.result?, called]
            rfl
          exact State.returns_of_result present going result
      | dropped => exact absurd (.inr ⟨_, called, rfl⟩) stays
  | returned r =>
      have result : s.result? c = some r := by
        rw [State.result?, present]
        dsimp only
        rw [own]
      exact State.returns_of_result present going result
  | dropped => exact absurd (.inl ⟨caller, present, own⟩) stays

end PlaceGateway.Fetch
