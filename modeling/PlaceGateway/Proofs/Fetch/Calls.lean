import PlaceGateway.Proofs.Fetch.Sound
/-! The callers of a cache and the calls they wait on, next to the executions that answer them. -/

namespace PlaceGateway.Fetch

open Flight (Call CallerId CallPhase Execution Outcome Phase)

def Event.IsAsked (Asks : String → PayloadKind → Prop) : Event → Prop
  | arrive _ key kind _ => Asks key kind
  | _ => True

structure Calls where
  tokens : Tokens
  callers : Table Caller
  calls : Table (Call Payload)

def State.calls (s : State) : Calls := ⟨s.flight.tokens, s.callers, s.flight.calls⟩

namespace Calls

def setCaller (v : Calls) (c : CallerId) (caller : Caller) (phase : CallerPhase) : Calls :=
  { v with callers := v.callers.set c { caller with phase } }

def setCall (v : Calls) (c : CallerId) (call : Call Payload) (phase : CallPhase Payload) : Calls :=
  { v with calls := v.calls.set c { call with phase } }

/-- All that an event can do to callers while it takes the executions from `l` to `l'`. -/
inductive Step (l l' : Loads) (v : Calls) : Event → Calls → Prop where
  | idle {event : Event} {tokens : Tokens} (other : ∀ c, event ≠ .enter c)
      (cancelled : ∀ id, v.tokens.isCancelled id = true → tokens.isCancelled id = true)
      (known : ∀ id, v.tokens.contains id = true → tokens.contains id = true) :
      Step l l' v event { v with tokens }
  | arrive {c : CallerId} {key : String} {kind : PayloadKind} {context : CallContext}
      (new : v.callers.get? c = none) (known : v.tokens.contains context.token = true) :
      Step l l' v (.arrive c key kind context)
        { v with callers := v.callers.set c ⟨key, kind, context, .arrived⟩ }
  | move {event : Event} {c : CallerId} {caller : Caller} {phase : CallerPhase}
      (other : ∀ c, event ≠ .enter c) (present : v.callers.get? c = some caller)
      (early : caller.phase ≠ .flying) (still : phase ≠ .flying) (pending : ∀ r, phase ≠ .returned r) :
      Step l l' v event (v.setCaller c caller phase)
  | refuse {c : CallerId} {caller : Caller} {err : CallError}
      (present : v.callers.get? c = some caller) (early : caller.phase ≠ .flying)
      (causes : caller.context.Causes v.tokens l.now err) :
      Step l l' v (.check c) (v.setCaller c caller (.returned (.error err)))
  | serve {c : CallerId} {caller : Caller} {read : Read} {p : Payload}
      (present : v.callers.get? c = some caller) (early : caller.phase ≠ .flying)
      (found : read.payload? l.store l.now caller.key caller.kind = some p) :
      Step l l' v (.lookup c read) (v.setCaller c caller (.returned (.ok p)))
  | decline {c : CallerId} {caller : Caller} {err : CallError}
      (present : v.callers.get? c = some caller) (new : v.calls.get? c = none)
      (causes : caller.context.Causes v.tokens l.now err) :
      Step l l' v (.enter c) ((v.setCaller c caller .flying).setCall c
        ⟨caller.key, caller.context, .dropped⟩ (.returned (.error err)))
  | attach {c e : CallerId} {caller : Caller} {phase : Phase Payload}
      (present : v.callers.get? c = some caller) (new : v.calls.get? c = none)
      (found : l'.executions.get? e = some ⟨caller.key, phase⟩) :
      Step l l' v (.enter c) ((v.setCaller c caller .flying).setCall c
        ⟨caller.key, caller.context, .dropped⟩ (.waiting e))
  | receive {c e : CallerId} {call : Call Payload} {key : String} {o : Outcome Payload}
      (present : v.calls.get? c = some call) (waiting : call.phase = .waiting e)
      (ended : l.executions.get? e = some ⟨key, .ended o⟩) :
      Step l l' v (.receive c) (v.setCall c call (.returned o))
  | giveUp {c e : CallerId} {call : Call Payload} {choice : Choice} {err : CallError}
      (present : v.calls.get? c = some call) (waiting : call.phase = .waiting e)
      (causes : call.context.Causes v.tokens l.now err) :
      Step l l' v (.giveUp c choice) (v.setCall c call (.returned (.error err)))
  | leave {c : CallerId} {call : Call Payload} (present : v.calls.get? c = some call) :
      Step l l' v (.drop c) (v.setCall c call .dropped)

/-- Calls are made by callers for keys of theirs, and wait on executions of their own keys. -/
structure Sound (Asks : String → PayloadKind → Prop) (l : Loads) (v : Calls) : Prop where
  asked : ∀ c caller, v.callers.get? c = some caller → Asks caller.key caller.kind
  started : ∀ e execution, l.executions.get? e = some execution → ∃ call, v.calls.get? e = some call
  entered : ∀ c call, v.calls.get? c = some call → ∃ caller, v.callers.get? c = some caller ∧
    caller.phase = .flying ∧ caller.key = call.key ∧ caller.context = call.context
  attached : ∀ c call e, v.calls.get? c = some call → call.phase = .waiting e →
    ∃ phase, l.executions.get? e = some ⟨call.key, phase⟩

variable {Asks : String → PayloadKind → Prop} {l l' : Loads} {v v' : Calls} {event : Event}
  {c : CallerId}

theorem sound_empty (now : Instant) (ttl : Option Duration) (tokens : Tokens) :
    Sound Asks ⟨now, .empty, ttl, .empty, .empty, .empty⟩ ⟨tokens, .empty, .empty⟩ where
  asked _ _ present := by cases present
  started _ _ present := by cases present
  entered _ _ present := by cases present
  attached _ _ _ present := by cases present

theorem Sound.flying (sound : v.Sound Asks l) {caller : Caller} {call : Call Payload}
    (present : v.callers.get? c = some caller) (called : v.calls.get? c = some call) :
    caller.phase = .flying ∧ caller.key = call.key ∧ caller.context = call.context := by
  obtain ⟨own, same, rest⟩ := sound.entered c call called
  rw [present] at same
  cases same
  exact rest

theorem Sound.setCaller (sound : v.Sound Asks l) (caller : Caller) (new : Asks caller.key caller.kind)
    (free : v.calls.get? c = none) : Sound Asks l { v with callers := v.callers.set c caller } where
  asked := Table.forall_set sound.asked new
  started := sound.started
  entered other call present := by
    obtain ⟨own, found, rest⟩ := sound.entered other call present
    have differs : other ≠ c := Table.ne_of_get? present free
    exact ⟨own, by simp [differs, found], rest⟩
  attached := sound.attached

theorem Sound.free (sound : v.Sound Asks l) {caller : Caller} (present : v.callers.get? c = some caller)
    (early : caller.phase ≠ .flying) : v.calls.get? c = none := by
  cases found : v.calls.get? c with
  | none => rfl
  | some call => exact absurd (sound.flying present found).1 early

theorem Sound.move (sound : v.Sound Asks l) {caller : Caller} (present : v.callers.get? c = some caller)
    (early : caller.phase ≠ .flying) (phase : CallerPhase) : Sound Asks l (v.setCaller c caller phase) := by
  have asked : Asks caller.key caller.kind := sound.asked c caller present
  exact sound.setCaller { caller with phase } asked (sound.free present early)

theorem Sound.fresh (sound : v.Sound Asks l) (c : CallerId) (free : v.calls.get? c = none) :
    l.executions.get? c = none := by
  cases found : l.executions.get? c with
  | none => rfl
  | some execution =>
      obtain ⟨call, present⟩ := sound.started c execution found
      rw [free] at present
      cases present

theorem Sound.setCall (sound : v.Sound Asks l) {call : Call Payload} {phase : CallPhase Payload}
    (present : v.calls.get? c = some call) (idle : ∀ e, phase ≠ .waiting e) :
    Sound Asks l (v.setCall c call phase) where
  asked := sound.asked
  started e execution found := by
    obtain ⟨own, was⟩ := sound.started e execution found
    by_cases same : e = c
    · exact ⟨{ call with phase }, by simp [Calls.setCall, same]⟩
    · exact ⟨own, by simp [Calls.setCall, same, was]⟩
  entered other own found := by
    rcases Table.get?_set_cases found with ⟨rfl, rfl⟩ | ⟨_, before⟩
    · exact sound.entered other call present
    · exact sound.entered other own before
  attached other own e found waiting := by
    rcases Table.get?_set_cases found with ⟨_, rfl⟩ | ⟨_, before⟩
    · exact absurd waiting (idle e)
    · exact sound.attached other own e before waiting

theorem Sound.withLoads (sound : v.Sound Asks l) (step : Loads.Step Asks l event l')
    (other : ∀ c, event ≠ .enter c) : Sound Asks l' v where
  asked := sound.asked
  started e execution found := by
    cases was : l.executions.get? e with
    | none => exact absurd (step.starts found was) (other e)
    | some before => exact sound.started e before was
  entered := sound.entered
  attached c call e found waiting := by
    obtain ⟨phase, was⟩ := sound.attached c call e found waiting
    obtain ⟨phase', present, _⟩ := step.keeps was
    exact ⟨phase', present⟩

theorem Sound.enter (sound : v.Sound Asks l) (step : Loads.Step Asks l (.enter c) l') {caller : Caller}
    {phase : CallPhase Payload} (present : v.callers.get? c = some caller)
    (new : v.calls.get? c = none)
    (attached : ∀ e, phase = .waiting e → ∃ phase, l'.executions.get? e = some ⟨caller.key, phase⟩) :
    Sound Asks l'
      ((v.setCaller c caller .flying).setCall c ⟨caller.key, caller.context, .dropped⟩ phase) where
  asked := Table.forall_set sound.asked (sound.asked c caller present)
  started e execution found := by
    by_cases same : e = c
    · exact ⟨⟨caller.key, caller.context, phase⟩, by simp [Calls.setCall, same]⟩
    · have differs : Event.enter c ≠ .enter e := fun h => same (Event.enter.inj h).symm
      cases was : l.executions.get? e with
      | none => exact absurd (step.starts found was) differs
      | some before =>
          obtain ⟨own, call⟩ := sound.started e before was
          exact ⟨own, by simp [Calls.setCall, Calls.setCaller, same, call]⟩
  entered other call found := by
    rcases Table.get?_set_cases found with ⟨rfl, rfl⟩ | ⟨apart, before⟩
    · exact ⟨{ caller with phase := .flying }, by simp [Calls.setCall, Calls.setCaller], rfl, rfl, rfl⟩
    · simp only [Calls.setCall, Calls.setCaller, Table.get?_set, if_neg apart]
      exact sound.entered other call before
  attached other call e found waiting := by
    rcases Table.get?_set_cases found with ⟨_, rfl⟩ | ⟨_, earlier⟩
    · exact attached e waiting
    · obtain ⟨was, before⟩ := sound.attached other call e earlier waiting
      obtain ⟨now, after, _⟩ := step.keeps before
      exact ⟨now, after⟩

theorem Step.sound (step : Calls.Step l l' v event v') (loads : Loads.Step Asks l event l')
    (asked : event.IsAsked Asks) (sound : v.Sound Asks l) : v'.Sound Asks l' := by
  cases step with
  | idle other _ _ =>
      have after := sound.withLoads loads other
      exact ⟨after.asked, after.started, after.entered, after.attached⟩
  | @arrive c _ _ _ new _ =>
      have free : v.calls.get? c = none := by
        cases found : v.calls.get? c with
        | none => rfl
        | some call =>
            obtain ⟨own, same, _⟩ := sound.entered c call found
            rw [new] at same
            cases same
      exact (sound.withLoads loads (by simp)).setCaller _ asked free
  | move other present early _ _ => exact (sound.withLoads loads other).move present early _
  | refuse present early _ => exact (sound.withLoads loads (by simp)).move present early _
  | serve present early _ => exact (sound.withLoads loads (by simp)).move present early _
  | decline present new _ => exact sound.enter loads present new (fun _ waiting => by cases waiting)
  | attach present new found =>
      refine sound.enter loads present new ?_
      intro e waiting
      cases waiting
      exact ⟨_, found⟩
  | receive present _ _ => exact (sound.withLoads loads (by simp)).setCall present (by simp)
  | giveUp present _ _ => exact (sound.withLoads loads (by simp)).setCall present (by simp)
  | leave present => exact (sound.withLoads loads (by simp)).setCall present (by simp)

theorem Step.cancelled (step : Calls.Step l l' v event v') {id : TokenId}
    (was : v.tokens.isCancelled id = true) : v'.tokens.isCancelled id = true := by
  cases step with
  | idle _ cancelled _ => exact cancelled id was
  | _ => exact was

theorem Step.known (step : Calls.Step l l' v event v') {id : TokenId}
    (was : v.tokens.contains id = true) : v'.tokens.contains id = true := by
  cases step with
  | idle _ _ known => exact known id was
  | _ => exact was

theorem Step.called (step : Calls.Step l l' v event v') {call : Call Payload}
    (present : v.calls.get? c = some call) : ∃ call', v'.calls.get? c = some call' := by
  have kept (other : CallerId) (own : Call Payload) :
      ∃ call', (v.calls.set other own).get? c = some call' := by
    by_cases same : c = other
    · exact ⟨own, by simp [same]⟩
    · exact ⟨call, by simp [same, present]⟩
  cases step with
  | decline _ _ _ => exact kept _ _
  | attach _ _ _ => exact kept _ _
  | receive _ _ _ => exact kept _ _
  | giveUp _ _ _ => exact kept _ _
  | leave _ => exact kept _ _
  | _ => exact ⟨call, present⟩

theorem Step.flies (step : Calls.Step l l' v event v')
    (flies : ∀ c caller, v.callers.get? c = some caller → caller.phase = .flying →
      ∃ call, v.calls.get? c = some call) :
    ∀ c caller, v'.callers.get? c = some caller → caller.phase = .flying →
      ∃ call, v'.calls.get? c = some call := by
  have kept {c : CallerId} (called : ∃ call, v.calls.get? c = some call) :
      ∃ call, v'.calls.get? c = some call := by
    obtain ⟨call, present⟩ := called
    exact step.called present
  cases step with
  | arrive _ _ => exact Table.forall_set flies nofun
  | move _ _ _ still _ => exact Table.forall_set flies fun flying => absurd flying still
  | refuse _ _ _ => exact Table.forall_set flies nofun
  | serve _ _ _ => exact Table.forall_set flies nofun
  | decline _ _ _ =>
      refine Table.forall_set (fun c caller present flying => kept (flies c caller present flying)) ?_
      exact fun _ => ⟨_, by simp [Calls.setCall]; rfl⟩
  | attach _ _ _ =>
      refine Table.forall_set (fun c caller present flying => kept (flies c caller present flying)) ?_
      exact fun _ => ⟨_, by simp [Calls.setCall]; rfl⟩
  | _ => exact fun c caller present flying => kept (flies c caller present flying)

theorem Step.enters (step : Calls.Step l l' v (.enter c) v') :
    v.calls.get? c = none ∧ ∃ call, v'.calls.get? c = some call := by
  cases step with
  | idle other _ _ => exact absurd rfl (other c)
  | move other _ _ _ _ => exact absurd rfl (other c)
  | decline _ new _ => exact ⟨new, _, by simp [Calls.setCall]; rfl⟩
  | attach _ new _ => exact ⟨new, _, by simp [Calls.setCall]; rfl⟩

end Calls

namespace State

variable {Asks : String → PayloadKind → Prop} {s s' : State} {c : CallerId}

theorem idle_step {event : Event} (other : ∀ c, event ≠ .enter c) (same : s'.calls = s.calls) :
    Calls.Step s.loads s'.loads s.calls event s'.calls := by
  rw [same]
  exact .idle other (fun _ cancelled => cancelled) (fun _ known => known)

theorem find_fst (s : State) (key : String) (kind : PayloadKind) (read : Read) :
    ∃ store counters, (s.find key kind read).1 = { s with store, counters } := by
  cases read with
  | actual => exact ⟨_, _, rfl⟩
  | failed => exact ⟨_, _, rfl⟩
  | answered value => exact ⟨_, _, rfl⟩

def withCalls (s : State) (v : Calls) : State :=
  { s with flight := { s.flight with tokens := v.tokens, calls := v.calls }, callers := v.callers }

theorem find_withCalls (s : State) (v : Calls) (key : String) (kind : PayloadKind) (read : Read) :
    (s.withCalls v).find key kind read =
      ((s.find key kind read).1.withCalls v, (s.find key kind read).2) := by
  cases read <;> rfl

theorem conclude?_withCalls (s : State) (v : Calls) (e : CallerId) (loader : Loader)
    (o : Flight.Outcome Payload) :
    (s.withCalls v).conclude? e loader o = (s.conclude? e loader o).map (·.withCalls v) := by
  rw [conclude?, conclude?]
  change Option.map _ (s.flight.group.finish? e o) = _
  cases s.flight.group.finish? e o <;> rfl

theorem follows_withCalls (v : Calls) (e : CallerId) : Follows (·.withCalls v) e where
  advance _ _ _ := rfl
  conclude s loader o := conclude?_withCalls s v e loader o

theorem keep?_withCalls (s : State) (v : Calls) (e : CallerId) (loader : Loader) (key : String)
    (p : Payload) (write : Write) :
    (s.withCalls v).keep? e loader key p write = (s.keep? e loader key p write).map (·.withCalls v) := by
  cases write with
  | failed =>
      let failed := { s.counters with writeErrors := s.counters.writeErrors + 1 }
      exact conclude?_withCalls { s with counters := failed } _ _ _ _
  | accepted => exact conclude?_withCalls _ _ _ _ _
  | kept =>
      have written : (s.withCalls v).store.set? (s.withCalls v).now key p.encode
          (ValueStore.lifetime (s.withCalls v).ttl) =
        s.store.set? s.now key p.encode (ValueStore.lifetime s.ttl) := rfl
      rw [keep?, written, keep?]
      cases s.store.set? s.now key p.encode (ValueStore.lifetime s.ttl) with
      | none => exact conclude?_withCalls _ _ _ _ _
      | some store => exact conclude?_withCalls { s with store } _ _ _ _

theorem loader_step {event : Event} {e : CallerId} (loader : event.loader? = some e)
    (stepped : s.step event = some s') (v : Calls) :
    (s.withCalls v).step event = some (s'.withCalls v) := by
  cases event with
  | recheck e read =>
      obtain ⟨loader, execution, present, found, spawned, reread⟩ := recheck?_iff.mp stepped
      refine recheck?_iff.mpr ⟨loader, execution, present, found, spawned, ?_⟩
      rw [find_withCalls, (follows_withCalls v e).reread?, reread, Option.map_some]
  | start e =>
      obtain ⟨loader, present, missed, rfl⟩ := start?_iff.mp stepped
      exact start?_iff.mpr ⟨loader, present, missed, rfl⟩
  | finish e outcome =>
      obtain ⟨loader, execution, present, found, loading, ended⟩ := finish?_iff.mp stepped
      refine finish?_iff.mpr ⟨loader, execution, present, found, loading, ?_⟩
      rw [(follows_withCalls v e).end?, ended, Option.map_some]
  | write e w =>
      obtain ⟨loader, execution, p, present, found, writing, kept⟩ := write?_iff.mp stepped
      refine write?_iff.mpr ⟨loader, execution, p, present, found, writing, ?_⟩
      rw [keep?_withCalls, kept, Option.map_some]
  | release e =>
      obtain ⟨group, released, rfl⟩ := Option.map_eq_some_iff.mp stepped
      exact Option.map_eq_some_iff.mpr ⟨group, released, rfl⟩
  | _ => cases loader

theorem loader_calls {event : Event} {e : CallerId} (loader : event.loader? = some e)
    (stepped : s.step event = some s') : s'.calls = s.calls := by
  have same : s.step event = some (s'.withCalls s.calls) := loader_step loader stepped s.calls
  rw [stepped, Option.some.injEq] at same
  rw [same]
  rfl

theorem check?_calls (stepped : s.check? c = some s') :
    Calls.Step s.loads s'.loads s.calls (.check c) s'.calls := by
  obtain ⟨caller, present, arrived, rfl⟩ := check?_iff.mp stepped
  have early : caller.phase ≠ .flying := by simp [arrived]
  cases done : caller.context.check s.flight.tokens s.now with
  | some err => exact .refuse present early (CallContext.causes_of_check done)
  | none => exact .move (by simp) present early (by simp [CallerPhase.ofCheck]) (by simp [CallerPhase.ofCheck])

theorem lookup?_calls {read : Read} (stepped : s.lookup? c read = some s') :
    Calls.Step s.loads s'.loads s.calls (.lookup c read) s'.calls := by
  obtain ⟨caller, present, checked, rfl⟩ := lookup?_iff.mp stepped
  have early : caller.phase ≠ .flying := by simp [checked]
  have value := find_snd s caller.key caller.kind read
  obtain ⟨store, counters, same⟩ := find_fst s caller.key caller.kind read
  rw [same]
  cases looked : (s.find caller.key caller.kind read).2 with
  | some p =>
      rw [looked] at value
      exact .serve present early value.symm
  | none => exact .move (by simp) present early (by simp) (by simp)

theorem enter?_calls (sound : s.loads.Sound Asks) (stepped : s.enter? c = some s') :
    Calls.Step s.loads s'.loads s.calls (.enter c) s'.calls := by
  obtain ⟨caller, flight, present, _, called, after⟩ := enter?_iff.mp stepped
  have calls : s'.calls =
      ⟨flight.tokens, s.callers.set c { caller with phase := .flying }, flight.calls⟩ := by
    rw [after]
    rfl
  have executions : s'.loads.executions = flight.group.executions := by
    rw [after]
    rfl
  rw [calls]
  obtain ⟨new, shape⟩ := Flight.State.call?_spec called
  rcases shape with ⟨err, done, rfl⟩ | ⟨_, ⟨e, holding, rfl⟩ | ⟨_, rfl⟩⟩
  · exact .decline present new (CallContext.causes_of_check done)
  · obtain ⟨phase, found, _⟩ := sound.held caller.key e holding
    have running : s'.loads.executions.get? e = some ⟨caller.key, phase⟩ := by
      rw [executions]
      exact found
    exact .attach present new running
  · have running : s'.loads.executions.get? c = some ⟨caller.key, .running⟩ := by
      rw [executions]
      simp
    exact .attach present new running

theorem drop?_calls (stepped : s.drop? c = some s') :
    Calls.Step s.loads s'.loads s.calls (.drop c) s'.calls := by
  obtain ⟨caller, present, ⟨_, flight, left, rfl⟩ | ⟨early, rfl⟩⟩ := drop?_iff.mp stepped
  · obtain ⟨call, e, called, _, rfl⟩ := Flight.State.drop?_spec left
    exact .leave called
  · have notFlying : caller.phase ≠ .flying := by
      intro flying
      rw [flying] at early
      cases early
    exact .move (by simp) present notFlying (by simp) (by simp)

theorem step_calls {event : Event} (sound : s.loads.Sound Asks) (stepped : s.step event = some s') :
    Calls.Step s.loads s'.loads s.calls event s'.calls := by
  cases event with
  | token id parent =>
      obtain ⟨flight, made, rfl⟩ := Option.map_eq_some_iff.mp stepped
      obtain ⟨token, absent, rfl⟩ := Flight.State.token?_spec made
      exact .idle (by simp) (fun other => Tokens.isCancelled_set_of_absent token absent)
        (fun other was => Table.contains_set was id token)
  | cancel id =>
      cases stepped
      exact .idle (by simp) (fun other => Tokens.isCancelled_cancel id)
        (fun other => Tokens.contains_cancel id)
  | advance d =>
      obtain ⟨now, reached, rfl⟩ := Option.map_eq_some_iff.mp stepped
      exact idle_step (by simp) rfl
  | purge =>
      cases stepped
      exact idle_step (by simp) rfl
  | arrive c key kind context =>
      obtain ⟨absent, known, rfl⟩ := arrive?_iff.mp stepped
      have new : s.callers.get? c = none := by simpa [Table.contains] using absent
      exact .arrive new known
  | check c => exact check?_calls stepped
  | lookup c read => exact lookup?_calls stepped
  | enter c => exact enter?_calls sound stepped
  | recheck e read => exact idle_step (by simp) (loader_calls rfl stepped)
  | start e => exact idle_step (by simp) (loader_calls rfl stepped)
  | finish e outcome => exact idle_step (by simp) (loader_calls rfl stepped)
  | write e w => exact idle_step (by simp) (loader_calls rfl stepped)
  | release e => exact idle_step (by simp) (loader_calls rfl stepped)
  | receive c =>
      obtain ⟨flight, received, rfl⟩ := Option.map_eq_some_iff.mp stepped
      obtain ⟨call, e, o, present, waiting, _, delivered, rfl⟩ := Flight.State.receive?_spec received
      obtain ⟨key, ended⟩ := Flight.Group.ended_of_outcome? delivered
      exact .receive present waiting ended
  | giveUp c choice =>
      obtain ⟨flight, given, rfl⟩ := Option.map_eq_some_iff.mp stepped
      obtain ⟨call, e, err, present, waiting, done, rfl⟩ := Flight.State.giveUp?_spec given
      exact .giveUp present waiting (CallContext.causes_of_done? done)
  | drop c => exact drop?_calls stepped

end State

end PlaceGateway.Fetch
