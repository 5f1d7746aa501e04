import PlaceGateway.Proofs.Fetch.Twins
/-! Isolation: who gives up while waiting changes nothing for executions, for the store, and for the
callers that do not share its token. -/

namespace PlaceGateway

namespace Flight.State

variable {V : Type} {f g : State V} {c : CallerId} {key : String} {context context' : CallContext}
  {tokens' : Tokens} {calls' : Table (Call V)}

theorem call?_twin (called : f.calls.contains c = calls'.contains c)
    (known : f.tokens.contains context.token = tokens'.contains context'.token)
    (checks : context.check f.tokens f.now = context'.check tokens' f.now)
    (stepped : f.call? c key context = some g) :
    ∃ phase, g = { f with group := g.group, calls := f.calls.set c ⟨key, context, phase⟩ } ∧
      call? { f with tokens := tokens', calls := calls' } c key context' = some { f with
        group := g.group, tokens := tokens', calls := calls'.set c ⟨key, context', phase⟩ } := by
  rw [call?] at stepped ⊢
  dsimp only
  rw [← called, ← known, ← checks]
  split at stepped
  · cases stepped
  · rename_i admitted
    rw [if_neg admitted]
    split at stepped
    · cases stepped
      exact ⟨_, rfl, rfl⟩
    · cases stepped
      exact ⟨_, rfl, rfl⟩

end Flight.State

namespace Fetch

open Flight (Call CallerId)

variable {P : Party} {s s' t t' : State} {v : Calls} {event event' : Event} {c e : CallerId}
  {trace trace' : List Event}

namespace State

/-- The states are the same but for callers, calls and tokens, and in these for what members of the
party do. -/
structure Alike (P : Party) (s t : State) : Prop where
  rest : t = s.withCalls t.calls
  calls : s.calls.Alike P t.calls

theorem Alike.symm (alike : s.Alike P t) : t.Alike P s where
  rest := by
    rw [alike.rest]
    rfl
  calls := alike.calls.symm

theorem Alike.exists (alike : s.Alike P t) : ∃ v, t = s.withCalls v ∧ s.calls.Alike P v :=
  ⟨t.calls, alike.rest, alike.calls⟩

theorem going_of_admits {caller : Caller} (admits : P.admits s event = true)
    (early : event = .check c ∨ event = .enter c) (present : s.callers.get? c = some caller)
    (member : P.callers c = true) : caller.context.check s.flight.tokens s.now = none := by
  rcases early with rfl | rfl <;> simpa [Party.admits, member, present] using admits

theorem Alike.arrive {key : String} {kind : PayloadKind} {context context' : CallContext}
    (alike : s.Alike P t) (same : P.context c context = P.context c context')
    (admits : P.admits s (.arrive c key kind context) = true)
    (stepped : s.arrive? c key kind context = some s') :
    ∃ t', t.arrive? c key kind context' = some t' ∧ s'.Alike P t' := by
  obtain ⟨v, rfl, calls⟩ := alike.exists
  obtain ⟨absent, present, rfl⟩ := arrive?_iff.mp stepped
  have apart (outside : P.callers c = false) : P.tokens context.token = false := by
    simpa [Party.admits, outside] using admits
  have new : (s.withCalls v).callers.contains c = s.callers.contains c := (calls.contains c).symm
  have known : (s.withCalls v).flight.tokens.contains context'.token =
      s.flight.tokens.contains context.token := by
    rw [Party.token_eq same]
    exact (calls.tokens.contains _).symm
  exact ⟨_, arrive?_iff.mpr ⟨new.trans absent, known.trans present, rfl⟩, rfl,
    calls.setCaller ⟨key, kind, context, .arrived⟩ same apart⟩

theorem Alike.check (alike : s.Alike P t) (admits : P.admits s (.check c) = true)
    (admits' : P.admits t (.check c) = true) (stepped : s.check? c = some s') :
    ∃ t', t.check? c = some t' ∧ s'.Alike P t' := by
  obtain ⟨v, rfl, calls⟩ := alike.exists
  obtain ⟨caller, present, arrived, rfl⟩ := check?_iff.mp stepped
  obtain ⟨context, found, same⟩ := calls.caller present
  have found : (s.withCalls v).callers.get? c = some { caller with context } := found
  have apart (outside : P.callers c = false) := (calls.apart c outside).1 caller present
  have checks : context.check (s.withCalls v).flight.tokens (s.withCalls v).now =
      caller.context.check s.flight.tokens s.now :=
    (calls.check_eq same apart (going_of_admits admits (.inl rfl) present)
      (going_of_admits admits' (.inl rfl) found)).symm
  refine ⟨_, check?_iff.mpr ⟨{ caller with context }, found, arrived, rfl⟩, ?_⟩
  rw [checks]
  exact ⟨rfl, calls.setCaller { caller with phase := _ } same apart⟩

theorem Alike.lookup {read : Read} (alike : s.Alike P t) (stepped : s.lookup? c read = some s') :
    ∃ t', t.lookup? c read = some t' ∧ s'.Alike P t' := by
  obtain ⟨v, rfl, calls⟩ := alike.exists
  obtain ⟨caller, present, checked, rfl⟩ := lookup?_iff.mp stepped
  obtain ⟨context, found, same⟩ := calls.caller present
  have apart (outside : P.callers c = false) := (calls.apart c outside).1 caller present
  have moved (phase : CallerPhase) := calls.setCaller { caller with phase } same apart
  refine ⟨_, lookup?_iff.mpr ⟨{ caller with context }, found, checked, rfl⟩, ?_⟩
  obtain ⟨store, counters, read_⟩ := find_fst s caller.key caller.kind read
  rw [find_withCalls, read_]
  cases (s.find caller.key caller.kind read).2 with
  | some p => exact ⟨rfl, moved (.returned (.ok p))⟩
  | none => exact ⟨rfl, moved .missed⟩

theorem Alike.enter (alike : s.Alike P t) (admits : P.admits s (.enter c) = true)
    (admits' : P.admits t (.enter c) = true) (stepped : s.enter? c = some s') :
    ∃ t', t.enter? c = some t' ∧ s'.Alike P t' := by
  obtain ⟨v, rfl, calls⟩ := alike.exists
  obtain ⟨caller, flight, present, missed, called, rfl⟩ := enter?_iff.mp stepped
  obtain ⟨context, found, same⟩ := calls.caller present
  have found : (s.withCalls v).callers.get? c = some { caller with context } := found
  have apart (outside : P.callers c = false) := (calls.apart c outside).1 caller present
  have checks := calls.check_eq same apart (going_of_admits admits (.inr rfl) present)
    (going_of_admits admits' (.inr rfl) found)
  have known : s.flight.tokens.contains caller.context.token = v.tokens.contains context.token := by
    rw [Party.token_eq same]
    exact calls.tokens.contains _
  obtain ⟨phase, shape, twin⟩ := Flight.State.call?_twin (calls.called c) known checks called
  have entered := (calls.setCaller { caller with phase := .flying } same apart).setCall (c := c)
    ⟨caller.key, caller.context, phase⟩ ⟨caller.key, context, phase⟩ (fun outside =>
      ⟨by rw [Party.context_eq outside same], apart outside⟩)
  refine ⟨_, enter?_iff.mpr ⟨{ caller with context }, _, found, missed, twin, rfl⟩, ?_⟩
  rw [shape]
  exact ⟨rfl, entered⟩

theorem Alike.answer (alike : s.Alike P t) (outside : P.callers c = false) {call : Call Payload}
    (present : s.flight.calls.get? c = some call) :
    t.flight.calls.get? c = some call ∧ t.flight.now = s.flight.now ∧
      t.flight.group = s.flight.group ∧
      (∀ choice, call.context.done? choice t.flight.tokens s.flight.now =
        call.context.done? choice s.flight.tokens s.flight.now) ∧
      ∀ phase, Alike P { s with flight := s.flight.setPhase c call phase }
        { t with flight := t.flight.setPhase c call phase } := by
  obtain ⟨v, rfl, calls⟩ := alike.exists
  have free := (calls.apart c outside).2 call present
  refine ⟨(calls.calls c outside).symm.trans present, rfl, rfl, ?_, ?_⟩
  · intro choice
    exact (calls.done_eq free choice _).symm
  · intro phase
    exact ⟨rfl, calls.setCall { call with phase } { call with phase } (fun _ => ⟨rfl, free⟩)⟩

theorem Alike.receive (alike : s.Alike P t) (outside : P.callers c = false)
    (stepped : s.step (.receive c) = some s') : ∃ t', t.step (.receive c) = some t' ∧ s'.Alike P t' := by
  obtain ⟨flight, received, rfl⟩ := Option.map_eq_some_iff.mp stepped
  obtain ⟨call, e, o, present, waiting, going, delivered, rfl⟩ := Flight.State.receive?_spec received
  obtain ⟨key, ended⟩ := Flight.Group.ended_of_outcome? delivered
  obtain ⟨found, now, group, done, after⟩ := alike.answer outside present
  have received := Flight.State.receive?_eq found waiting (by rw [now, done, going]) (group ▸ ended)
  exact ⟨_, by rw [step, received, Option.map_some], after _⟩

theorem Alike.giveUp {choice : Choice} (alike : s.Alike P t) (outside : P.callers c = false)
    (stepped : s.step (.giveUp c choice) = some s') :
    ∃ t', t.step (.giveUp c choice) = some t' ∧ s'.Alike P t' := by
  obtain ⟨flight, given, rfl⟩ := Option.map_eq_some_iff.mp stepped
  obtain ⟨call, e, err, present, waiting, done, rfl⟩ := Flight.State.giveUp?_spec given
  obtain ⟨found, now, _, same, after⟩ := alike.answer outside present
  have signal : call.context.done? choice t.flight.tokens t.flight.now = some err := by rw [now, same, done]
  have given := Flight.State.giveUp?_eq found waiting signal
  exact ⟨_, by rw [step, given, Option.map_some], after _⟩

theorem Alike.drop (alike : s.Alike P t) (outside : P.callers c = false)
    (stepped : s.drop? c = some s') : ∃ t', t.drop? c = some t' ∧ s'.Alike P t' := by
  obtain ⟨caller, present, ⟨flying, flight, left, rfl⟩ | ⟨early, rfl⟩⟩ := drop?_iff.mp stepped
  · have found : t.callers.get? c = some caller := (alike.calls.caller_eq outside).symm.trans present
    obtain ⟨call, e, called, waiting, rfl⟩ := Flight.State.drop?_spec left
    obtain ⟨waits, _, _, _, after⟩ := alike.answer outside called
    exact ⟨_, drop?_iff.mpr ⟨caller, found,
      .inl ⟨flying, _, Flight.State.drop?_eq waits waiting, rfl⟩⟩, after _⟩
  · have found : t.callers.get? c = some caller := (alike.calls.caller_eq outside).symm.trans present
    obtain ⟨v, rfl, calls⟩ := alike.exists
    have free := (calls.apart c outside).1 caller present
    exact ⟨_, drop?_iff.mpr ⟨caller, found, .inr ⟨early, rfl⟩⟩, rfl,
      calls.setCaller { caller with phase := .dropped } rfl (fun _ => free)⟩

theorem Alike.token {id : TokenId} {parent : Option TokenId} (alike : s.Alike P t)
    (admits : P.admits s (.token id parent) = true) (stepped : s.step (.token id parent) = some s') :
    ∃ t', t.step (.token id parent) = some t' ∧ s'.Alike P t' := by
  obtain ⟨v, rfl, calls⟩ := alike.exists
  obtain ⟨flight, made, rfl⟩ := Option.map_eq_some_iff.mp stepped
  obtain ⟨absent, present, rfl⟩ := Flight.State.token?_iff.mp made
  have known : (s.withCalls v).flight.tokens.contains = s.flight.tokens.contains :=
    funext fun other => (calls.tokens.contains other).symm
  have twin := Flight.State.token?_iff.mpr ⟨(congrFun known id).trans absent, known ▸ present, rfl⟩
  have alike : Token.Alike P.tokens (id, ⟨parent, parent.any s.flight.tokens.isCancelled⟩)
      (id, ⟨parent, parent.any v.tokens.isCancelled⟩) := by
    refine ⟨rfl, rfl, fun outside => ?_⟩
    cases parent with
    | none => exact ⟨rfl, rfl⟩
    | some p =>
        have free : P.tokens p = false := by
          dsimp only at outside
          simpa [Party.admits, outside] using admits
        exact ⟨calls.tokens.isCancelled free, free⟩
  exact ⟨_, Option.map_eq_some_iff.mpr ⟨_, twin, rfl⟩, rfl,
    calls.tokens.set alike, calls.callers, calls.called, calls.calls, calls.apart⟩

theorem Alike.own_left (alike : s.Alike P t) (own : P.outside? event = none)
    (admits : P.admits s event = true) (stepped : s.step event = some s') : s'.Alike P t := by
  have member {c : CallerId} {o : Event} (own : (if P.callers c then none else some o) = none) :
      P.callers c = true := by
    by_contra outside
    rw [if_neg outside] at own
    cases own
  have moved {c : CallerId} {call : Call Payload} (member : P.callers c = true)
      (present : s.flight.calls.get? c = some call) (phase : Flight.CallPhase Payload) :
      Alike P { s with flight := s.flight.setPhase c call phase } t :=
    ⟨alike.rest, alike.calls.setCall_left member present _⟩
  cases event with
  | cancel id => 
      cases stepped
      have inside : P.tokens id = true := by
        by_contra outside
        rw [Party.outside?, if_neg outside] at own
        cases own
      exact ⟨alike.rest, alike.calls.tokens.cancel_left inside, alike.calls.callers, alike.calls.called,
        alike.calls.calls, alike.calls.apart⟩
  | receive c => 
      obtain ⟨flight, received, rfl⟩ := Option.map_eq_some_iff.mp stepped
      obtain ⟨call, _, _, present, _, _, _, rfl⟩ := Flight.State.receive?_spec received
      exact moved (member own) present _
  | giveUp c choice => 
      obtain ⟨flight, given, rfl⟩ := Option.map_eq_some_iff.mp stepped
      obtain ⟨call, _, _, present, _, _, rfl⟩ := Flight.State.giveUp?_spec given
      exact moved (member own) present _
  | drop c =>
      have inside := member own
      obtain ⟨caller, present, dropped⟩ := drop?_iff.mp stepped
      have flying : caller.phase = .flying := by
        simpa [Party.admits, inside, present] using admits
      obtain ⟨_, flight, left, rfl⟩ | ⟨early, _⟩ := dropped
      · obtain ⟨call, _, called, _, rfl⟩ := Flight.State.drop?_spec left
        exact moved inside called _
      · rw [flying] at early
        cases early
  | _ => cases own

theorem Alike.loader (alike : s.Alike P t) (loader : event.loader? = some e)
    (stepped : s.step event = some s') : ∃ t', t.step event = some t' ∧ s'.Alike P t' := by
  obtain ⟨v, rfl, calls⟩ := alike.exists
  refine ⟨s'.withCalls v, ?_, rfl, ?_⟩
  · exact loader_step loader stepped v
  · rw [loader_calls loader stepped]
    exact calls

theorem Alike.step (alike : s.Alike P t) (told : (P.outside? event).isSome = true)
    (admits : P.admits s event = true) (admits' : P.admits t event = true)
    (stepped : s.step event = some s') : ∃ t', t.step event = some t' ∧ s'.Alike P t' := by
  have outside {c : CallerId} {o : Event}
      (told : (if P.callers c then none else some o).isSome = true) : P.callers c = false := by
    by_contra inside
    rw [if_pos (by simpa using inside)] at told
    cases told
  cases event with
  | token id parent => exact alike.token admits stepped
  | cancel id =>
      cases stepped
      obtain ⟨v, rfl, calls⟩ := alike.exists
      exact ⟨_, rfl, rfl, calls.tokens.cancel id, calls.callers, calls.called, calls.calls, calls.apart⟩
  | advance d =>
      obtain ⟨now, reached, rfl⟩ := Option.map_eq_some_iff.mp stepped
      obtain ⟨v, rfl, calls⟩ := alike.exists
      have reached : Instant.add? (s.withCalls v).now d = some now := reached
      rw [State.step, reached]
      exact ⟨_, rfl, rfl, calls⟩
  | purge =>
      cases stepped
      obtain ⟨v, rfl, calls⟩ := alike.exists
      exact ⟨_, rfl, rfl, calls⟩
  | arrive c key kind context => exact alike.arrive rfl admits stepped
  | check c => exact alike.check admits admits' stepped
  | lookup c read => exact alike.lookup stepped
  | enter c => exact alike.enter admits admits' stepped
  | receive c => exact alike.receive (outside told) stepped
  | giveUp c choice => exact alike.giveUp (outside told) stepped
  | drop c => exact alike.drop (outside told) stepped
  | recheck e read => exact alike.loader rfl stepped
  | start e => exact alike.loader rfl stepped
  | finish e outcome => exact alike.loader rfl stepped
  | write e w => exact alike.loader rfl stepped
  | release e => exact alike.loader rfl stepped

theorem Alike.result (alike : s.Alike P t) (outside : P.callers c = false) : s.result? c = t.result? c := by
  have callers : t.callers.get? c = s.callers.get? c := (alike.calls.caller_eq outside).symm
  have calls : t.flight.result? c = s.flight.result? c := by
    have same : t.flight.calls.get? c = s.flight.calls.get? c := (alike.calls.calls c outside).symm
    rw [Flight.State.result?, Flight.State.result?, same]
  rw [result?, result?, callers, calls]

theorem Alike.shared (alike : s.Alike P t) {shared : Event} (told : P.outside? event = some shared)
    (told' : P.outside? event' = some shared) (admits : P.admits s event = true)
    (admits' : P.admits t event' = true) (stepped : s.step event = some s') :
    ∃ t', t.step event' = some t' ∧ s'.Alike P t' := by
  rcases Party.outside?_spec told with ⟨c, key, kind, ctx, rfl, rfl⟩ | ⟨rfl, other⟩
  · rcases Party.outside?_spec told' with ⟨c', key', kind', ctx', rfl, same⟩ | ⟨rfl, other⟩
    · injection same with c_eq key_eq kind_eq contexts
      subst c_eq key_eq kind_eq
      exact alike.arrive contexts admits stepped
    · exact absurd rfl (other _ _ _ _)
  · rcases Party.outside?_spec told' with ⟨c', key', kind', ctx', rfl, rfl⟩ | ⟨rfl, _⟩
    · exact absurd rfl (other _ _ _ _)
    · exact alike.step (by rw [told]; rfl) admits admits' stepped

theorem Alike.own_run (alike : s.Alike P t) (own : ∀ event ∈ trace, P.outside? event = none)
    (run : P.run s trace = some s') : s'.Alike P t := by
  induction trace generalizing s with
  | nil =>
      cases run
      exact alike
  | cons event trace ih =>
      rw [Party.run] at run
      split at run
      · rename_i admits
        obtain ⟨next, stepped, run⟩ := Option.bind_eq_some_iff.mp run
        have moved := alike.own_left (own event List.mem_cons_self) admits stepped
        exact ih moved (fun later member => own later (List.mem_cons_of_mem _ member)) run
      · cases run

/-- Runs that look the same to others keep states alike. The induction is on the one run, and takes what
members do in the other up to its next event that others can tell of. -/
theorem Alike.run (alike : s.Alike P t) (run : P.run s trace = some s') (run' : P.run t trace' = some t')
    (same : trace.filterMap P.outside? = trace'.filterMap P.outside?) : s'.Alike P t' := by
  induction trace generalizing s t trace' with
  | nil =>
      cases run
      have own := List.filterMap_eq_nil_iff.mp same.symm
      exact (alike.symm.own_run own run').symm
  | cons event trace ih =>
      rw [Party.run] at run
      split at run
      · rename_i admits
        obtain ⟨next, stepped, run⟩ := Option.bind_eq_some_iff.mp run
        cases told : P.outside? event with
        | none =>
            rw [List.filterMap_cons_none told] at same
            exact ih (alike.own_left told admits stepped) run run' same
        | some shared =>
            rw [List.filterMap_cons_some told] at same
            obtain ⟨own, event', rest, rfl, silent, told', same⟩ := List.filterMap_eq_cons_iff.mp same.symm
            rw [Party.run_append] at run'
            obtain ⟨mid, early, late⟩ := Option.bind_eq_some_iff.mp run'
            rw [Party.run] at late
            split at late
            · rename_i admits'
              obtain ⟨next', stepped', late⟩ := Option.bind_eq_some_iff.mp late
              -- Members act alone in the other run until it comes to the event that both share.
              have alike := (alike.symm.own_run silent early).symm
              obtain ⟨other, possible, alike⟩ := alike.shared told told' admits admits' stepped
              rw [stepped'] at possible
              cases possible
              exact ih alike run late same.symm
            · cases late
      · cases run

theorem alike_initial (P : Party) (ttl : Option Duration) :
    Alike P (.initial ttl) (.initial ttl) where
  rest := rfl
  calls := ⟨.nil, fun _ => rfl, fun _ => rfl, fun _ _ => rfl,
    fun _ _ => ⟨fun _ present => (by cases present), fun _ present => (by cases present)⟩⟩

/-- The states have the same executions, store and clock, and who is no member finds the same. -/
def AgreesBeside (P : Party) (s t : State) : Prop :=
  s.flight.group = t.flight.group ∧ s.loaders = t.loaders ∧ s.store = t.store ∧ s.now = t.now ∧
    s.counters = t.counters ∧ ∀ c, P.callers c = false → s.result? c = t.result? c

theorem Alike.agrees (alike : s.Alike P t) : s.AgreesBeside P t := by
  have results (c : CallerId) (outside : P.callers c = false) := alike.result outside
  obtain ⟨v, rfl, _⟩ := alike.exists
  exact ⟨rfl, rfl, rfl, rfl, rfl, results⟩

end State

variable {ttl : Option Duration}

/-- Two runs may differ in when members of a party that have entered are cancelled, come to their
deadlines, give up or receive. Then at every moment they have the same executions with the same
outcomes, the same keys held and the same store, and the other callers have the same results; and what
others can tell of stays possible in both. -/
theorem waiters_are_isolated (run : P.run (.initial ttl) trace = some s)
    (run' : P.run (.initial ttl) trace' = some t)
    (same : trace.filterMap P.outside? = trace'.filterMap P.outside?) :
    s.AgreesBeside P t ∧
    (∀ front rest, trace = front ++ rest → ∃ front' rest' s₁ t₁, trace' = front' ++ rest' ∧
      front.filterMap P.outside? = front'.filterMap P.outside? ∧
      (State.initial ttl).run front = some s₁ ∧ (State.initial ttl).run front' = some t₁ ∧
      s₁.AgreesBeside P t₁) ∧
    ∀ event event' shared s', P.outside? event = some shared → P.outside? event' = some shared →
      P.admits s event = true → P.admits t event' = true → s.step event = some s' →
        ∃ t', t.step event' = some t' ∧ s'.AgreesBeside P t' := by
  have start := State.alike_initial P ttl
  have alike := start.run run run' same
  refine ⟨alike.agrees, ?_, ?_⟩
  · rintro front rest rfl
    rw [List.filterMap_append] at same
    obtain ⟨front', rest', rfl, early, _⟩ := List.filterMap_eq_append_iff.mp same.symm
    rw [Party.run_append] at run run'
    obtain ⟨s₁, front_run, _⟩ := Option.bind_eq_some_iff.mp run
    obtain ⟨t₁, front_run', _⟩ := Option.bind_eq_some_iff.mp run'
    have alike := start.run front_run front_run' early.symm
    exact ⟨front', rest', s₁, t₁, rfl, early.symm, Party.run_of_run front_run, Party.run_of_run front_run',
      alike.agrees⟩
  · intro event event' shared s' told told' admits admits' stepped
    obtain ⟨t', stepped', alike⟩ := alike.shared told told' admits admits' stepped
    exact ⟨t', stepped', alike.agrees⟩

theorem waiters_are_isolated_from_first :
    ∃ (P : Party) (trace trace' : List Event) (s t : State), P.callers "a" = true ∧ P.run (.initial none) trace = some s ∧
      P.run (.initial none) trace' = some t ∧ s.AgreesBeside P t ∧
      s.result? "a" = some (.error .cancelled) ∧ t.result? "a" = some (.ok (.search ⟨[]⟩)) ∧
      s.result? "b" = some (.ok (.search ⟨[]⟩)) ∧ t.result? "b" = some (.ok (.search ⟨[]⟩)) := by
  let P : Party := ⟨(· == "a"), (· == "t")⟩
  let front : List Event :=
    [.token "t" none, .token "u" none, .arrive "a" "k" .search ⟨"t", none⟩,
     .arrive "b" "k" .search ⟨"u", none⟩, .check "a", .check "b", .lookup "a" .actual,
     .lookup "b" .actual, .enter "a", .enter "b"]
  let load : List Event :=
    [.recheck "a" .actual, .start "a", .finish "a" (.loaded (.search ⟨[]⟩)), .write "a" .kept,
     .release "a"]
  let trace := front ++ [.cancel "t", .giveUp "a" .cancellation] ++ load ++ [.receive "b"]
  let trace' := front ++ load ++ [.receive "a", .receive "b"]
  let s := (P.run (.initial none) trace).get (by decide +kernel)
  let t := (P.run (.initial none) trace').get (by decide +kernel)
  have run : P.run (.initial none) trace = some s := (Option.some_get _).symm
  have run' : P.run (.initial none) trace' = some t := (Option.some_get _).symm
  exact ⟨P, trace, trace', s, t, rfl, run, run', (waiters_are_isolated run run' rfl).1,
    by decide +kernel, by decide +kernel, by decide +kernel, by decide +kernel⟩

end Fetch

end PlaceGateway
