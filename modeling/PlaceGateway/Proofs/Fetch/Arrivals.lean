import PlaceGateway.Proofs.Fetch.Run
/-! Who came to a cache. A caller has the key, the kind and the context that it came with, and the
execution that it starts is one of its key. -/

namespace PlaceGateway.Fetch

open Flight (CallerId)

variable {ttl : Option Duration} {Allowed : Event → Prop} {trace : List Event} {event : Event}
  {c e : CallerId} {key : String} {caller own : Caller} {phase : CallerPhase} {l l' : Loads}
  {v v' : Calls} {s s' : State}

def Came (trace : List Event) (c : CallerId) : Prop :=
  ∃ key kind context, Event.arrive c key kind context ∈ trace

theorem Calls.setCaller_back {d : CallerId} (present : v.callers.get? d = some own)
    (found : (v.setCaller d own phase).callers.get? c = some caller) :
    ∃ before, v.callers.get? c = some { caller with phase := before } := by
  rcases Table.get?_set_cases found with ⟨rfl, rfl⟩ | ⟨_, before⟩
  · exact ⟨own.phase, present⟩
  · exact ⟨caller.phase, before⟩

theorem Calls.Step.came (step : Calls.Step l l' v event v') (present : v'.callers.get? c = some caller) :
    (event = .arrive c caller.key caller.kind caller.context ∧
        v.tokens.contains caller.context.token = true) ∨
      ∃ before, v.callers.get? c = some { caller with phase := before } := by
  cases step with
  | @arrive d key kind context new known =>
      rcases Table.get?_set_cases present with ⟨rfl, rfl⟩ | ⟨_, before⟩
      · exact .inl ⟨rfl, known⟩
      · exact .inr ⟨caller.phase, before⟩
  | move _ was _ _ _ => exact .inr (Calls.setCaller_back was present)
  | refuse was _ _ => exact .inr (Calls.setCaller_back was present)
  | serve was _ _ => exact .inr (Calls.setCaller_back was present)
  | decline was _ _ => exact .inr (Calls.setCaller_back was present)
  | attach was _ _ => exact .inr (Calls.setCaller_back was present)
  | _ => exact .inr ⟨caller.phase, present⟩

theorem Reached.arrived (reached : Reached ttl Allowed trace s) (present : s.callers.get? c = some caller) :
    Event.arrive c caller.key caller.kind caller.context ∈ trace := by
  induction reached generalizing caller with
  | initial => cases present
  | step before _ stepped ih =>
      have called := (before.moves stepped).2
      rcases called.came present with ⟨rfl, _⟩ | ⟨phase, was⟩
      · exact List.mem_append_right _ List.mem_cons_self
      · have early := ih was
        exact List.mem_append_left _ early

theorem State.key_of_enter? (fresh : s.flight.group.executions.get? c = none)
    (stepped : s.enter? c = some s') (named : s'.HasKey c key) :
    ∃ caller, s.callers.get? c = some caller ∧ caller.key = key := by
  obtain ⟨caller, flight, present, _, called, after⟩ := enter?_iff.mp stepped
  have group : s'.flight.group = flight.group := by
    rw [after]
    rfl
  obtain ⟨phase, found⟩ := named
  rw [group] at found
  refine ⟨caller, present, ?_⟩
  obtain ⟨_, shape⟩ := Flight.State.call?_spec called
  rcases shape with ⟨err, _, rfl⟩ | ⟨_, ⟨e, _, rfl⟩ | ⟨_, rfl⟩⟩
  · rw [fresh] at found
    cases found
  · rw [fresh] at found
    cases found
  · simp only [Table.get?_set, if_true, Option.some.injEq, Flight.Execution.mk.injEq] at found
    exact found.1

theorem Reached.started (reached : Reached ttl Allowed trace s) (named : s.HasKey e key) :
    ∃ kind context, Event.arrive e key kind context ∈ trace := by
  induction reached with
  | initial =>
      obtain ⟨phase, found⟩ := named
      cases found
  | @step trace s s' event before _ stepped ih =>
      have loads := (before.moves stepped).1
      obtain ⟨phase, found⟩ := named
      cases was : s.flight.group.executions.get? e with
      | none =>
          cases loads.starts found was
          obtain ⟨caller, present, rfl⟩ := State.key_of_enter? was stepped ⟨phase, found⟩
          exact ⟨_, _, List.mem_append_left _ (before.arrived present)⟩
      | some execution =>
          obtain ⟨own, phase'⟩ := execution
          obtain ⟨phase'', kept, _⟩ := loads.keeps was
          have kept : s'.flight.group.executions.get? e = some ⟨own, phase''⟩ := kept
          rw [found] at kept
          cases kept
          obtain ⟨kind, context, member⟩ := ih ⟨phase', was⟩
          exact ⟨kind, context, List.mem_append_left _ member⟩

theorem Reached.known (reached : Reached ttl Allowed trace s) (present : s.callers.get? c = some caller) :
    s.flight.tokens.contains caller.context.token = true := by
  induction reached generalizing caller with
  | initial => cases present
  | step before _ stepped ih =>
      have called := (before.moves stepped).2
      rcases called.came present with ⟨_, known⟩ | ⟨phase, was⟩
      · exact called.known known
      · have known := ih was
        exact called.known known

theorem Reached.flies (reached : Reached ttl Allowed trace s) :
    ∀ c caller, s.callers.get? c = some caller → caller.phase = .flying →
      ∃ call, s.flight.calls.get? c = some call := by
  induction reached with
  | initial => exact fun _ _ present => (by cases present)
  | step before _ stepped ih =>
      exact (before.moves stepped).2.flies ih

end PlaceGateway.Fetch
