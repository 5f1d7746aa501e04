import PlaceGateway.Proofs.Fetch.Arrivals
import PlaceGateway.Proofs.Fetch.History
/-! What a caller shares with the execution that it started or joined, and what an execution ends with. -/

namespace PlaceGateway

theorem Payload.kind_of_decode? {kind : PayloadKind} {s : Bytes} {p : Payload}
    (decodes : decode? kind s = some p) : p.kind = kind := by
  cases kind with
  | place =>
      obtain ⟨_, _, rfl⟩ := Option.map_eq_some_iff.mp decodes
      rfl
  | search =>
      obtain ⟨_, _, rfl⟩ := Option.map_eq_some_iff.mp decodes
      rfl

namespace Fetch

open Flight (CallerId Outcome)

variable {ttl : Option Duration} {Allowed : Event → Prop} {trace more : List Event} {event : Event}
  {c e : CallerId} {key : String} {kind : PayloadKind} {loader : LoaderPhase} {caller : Caller}
  {p : Payload} {err : CallError} {l l' : Loads} {v v' : Calls} {s s' : State}

theorem kind_of_payload? {store : MemoryStore} {now : Instant} {read : Read}
    (found : read.payload? store now key kind = some p) : p.kind = kind := by
  cases read with
  | failed => cases found
  | actual =>
      obtain ⟨_, _, decodes⟩ := Option.bind_eq_some_iff.mp found
      exact Payload.kind_of_decode? decodes
  | answered value =>
      obtain ⟨_, _, decodes⟩ := Option.bind_eq_some_iff.mp found
      exact Payload.kind_of_decode? decodes

theorem Reached.kind_of_concludes (reached : Reached ttl Allowed trace s)
    (present : s.loaders.get? e = some ⟨kind, loader⟩) (concludes : s.Concludes e key (.ok p)) :
    p.kind = kind := by
  obtain ⟨phase, found, told⟩ := concludes
  cases reached.told.story e kind loader key phase present found with
  | found _ _ _ value outcome =>
      rw [outcome] at told
      cases told
      exact kind_of_payload? value
  | loaded _ _ own outcome =>
      rw [outcome] at told
      exact own p (Option.some.inj told)
  | overflow _ _ _ outcome =>
      rw [outcome] at told
      cases told
  | _ => cases told

theorem Reached.error_of_concludes (reached : Reached ttl Allowed trace s)
    (concludes : s.Concludes e key (.error err)) :
    Event.finish e (.failed err) ∈ trace ∨ err = .emptyPayload key ∨
      ∃ message, err = .internal (.loaderPanicked message) ∧
        (Event.finish e (.panicked message) ∈ trace ∨ ∃ p, Event.finish e (.loaded p) ∈ trace) := by
  rcases reached.failure_of_concludes concludes with ⟨outcome, ended, fails⟩ | ⟨p, message, ended, _, own⟩
  · rcases LoadOutcome.of_result_error fails with rfl | ⟨_, _, _, empty⟩ | ⟨message, rfl, own⟩
    · exact .inl ended
    · exact .inr (.inl empty)
    · exact .inr (.inr ⟨message, own, .inl ended⟩)
  · exact .inr (.inr ⟨message, own, .inr ⟨p, ended⟩⟩)

theorem Calls.Step.stays (step : Calls.Step l l' v event v') (present : v.callers.get? c = some caller) :
    ∃ phase, v'.callers.get? c = some { caller with phase } := by
  have moved {d : CallerId} {own : Caller} (was : v.callers.get? d = some own) (next : CallerPhase) :
      ∃ phase, (v.setCaller d own next).callers.get? c = some { caller with phase } := by
    by_cases same : c = d
    · subst same
      rw [present] at was
      cases was
      exact ⟨next, by simp [Calls.setCaller]⟩
    · exact ⟨caller.phase, by simp [Calls.setCaller, same, present]⟩
  cases step with
  | @arrive d _ _ _ new _ =>
      have differs : c ≠ d := Table.ne_of_get? present new
      exact ⟨caller.phase, by simp [differs, present]⟩
  | move _ was _ _ _ => exact moved was _
  | refuse was _ _ => exact moved was _
  | serve was _ _ => exact moved was _
  | decline was _ _ => exact moved was .flying
  | attach was _ _ => exact moved was .flying
  | _ => exact ⟨caller.phase, present⟩

theorem Reached.stays (reached : Reached ttl Allowed trace s) (allowed : ∀ event ∈ more, Allowed event)
    (run : s.run more = some s') (present : s.callers.get? c = some caller) :
    ∃ phase, s'.callers.get? c = some { caller with phase } := by
  refine reached.preserves (fun s => ∃ phase, s.callers.get? c = some { caller with phase }) allowed run
    ?_ ⟨caller.phase, present⟩
  rintro _ s event s' before _ stepped ⟨phase, was⟩
  have still := (before.moves stepped).2.stays was
  exact still

theorem joined_of_run {front : List Event} {s₀ s₁ : State} {call : Flight.Call Payload}
    (run : (State.initial ttl).run front = some s₀) (stepped : s₀.step (.enter c) = some s₁)
    (called : s₁.flight.calls.get? c = some call) (waits : call.phase = .waiting e) (rest : List Event) :
    Joined ttl (front ++ .enter c :: rest) c e :=
  ⟨s₀, s₁, call, ⟨front, rest, rfl, run⟩, stepped, called, waits⟩

theorem Joined.waiter (joined : Joined ttl trace c e) (reached : Reached ttl Allowed trace s) :
    ∃ caller, s.callers.get? c = some caller ∧ s.HasKey e caller.key := by
  obtain ⟨s₀, s₁, call, happened, stepped, called, waits⟩ := joined
  obtain ⟨front, rest, rfl, before, run, allowed⟩ := reached.since happened
  rw [State.run, stepped, Option.bind_some] at run
  have after := before.step (allowed _ List.mem_cons_self) stepped
  have later (event : Event) (member : event ∈ rest) : Allowed event :=
    allowed event (List.mem_cons_of_mem _ member)
  obtain ⟨_, calls⟩ := after.isSound
  obtain ⟨caller, present, _, own, _⟩ := calls.entered c call called
  have attached : s₁.HasKey e call.key := calls.attached c call e called waits
  obtain ⟨phase, still⟩ := after.stays later run present
  exact ⟨_, still, own ▸ after.hasKey later run attached⟩

theorem Joined.origin (joined : Joined ttl trace c e) (reached : Reached ttl Allowed trace s)
    (present : s.callers.get? c = some caller) {r : Outcome Payload} (returns : s.result? c = some r) :
    (∃ err, r = .error err ∧ caller.context.Causes s.flight.tokens s.now err) ∨
      ∃ o, s.flight.group.executions.get? e = some ⟨caller.key, .ended o⟩ ∧
        r = State.ofKind caller.kind o := by
  rcases reached.origin present returns with refused | ⟨outside, _⟩ | ⟨e', o, joined', answered⟩
  · exact .inl refused
  · obtain ⟨call, called⟩ := joined.called reached
    rw [outside] at called
    cases called
  · cases joined.unique reached joined'
    exact .inr ⟨o, answered⟩

end Fetch

end PlaceGateway
