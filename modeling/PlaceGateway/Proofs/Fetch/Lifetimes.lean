import PlaceGateway.Proofs.Fetch.Coalesce
import PlaceGateway.Proofs.Fetch.Joins
import PlaceGateway.Proofs.Fetch.Returns
/-! What comes after the end of a fetch function. Its payload reaches the callers that wait for it, unless
the clock does not reach the end of the entry that the loader writes. -/

namespace PlaceGateway

theorem MemoryStore.set?_isSome_iff (store : MemoryStore) (now : Instant) (key : String) (value : Bytes)
    (ttl : Option Duration) : (store.set? now key value ttl).isSome = true ↔
      ∀ d, ttl = some d → now + d.nanos < Instant.limit := by
  cases ttl with
  | none =>
      constructor
      · intro _ d other
        cases other
      · intro _
        rfl
  | some d =>
      rw [set?, Instant.add?, Option.isSome_map]
      constructor
      · intro stored _ own
        cases own
        by_contra late
        rw [if_neg late] at stored
        cases stored
      · intro inTime
        rw [if_pos (inTime d rfl)]
        rfl

namespace Fetch

open Flight (CallerId Execution Outcome Phase)

variable {ttl : Option Duration} {Allowed : Event → Prop} {Asks : String → PayloadKind → Prop}
  {kindOf : String → PayloadKind} {trace more : List Event} {event : Event} {c e : CallerId}
  {key : String} {kind : PayloadKind} {caller : Caller} {outcome : LoadOutcome} {p : Payload}
  {o r : Outcome Payload} {l l' : Loads} {s s' s₀ : State}

def Loads.Reaches (l : Loads) : Prop :=
  ∀ d, ValueStore.lifetime l.ttl = some d → l.now + d.nanos < Instant.limit

namespace Loads

theorem Step.frame (step : Step Asks l event l') (other : event.loader? ≠ some e)
    {execution : Execution Payload} (found : l.executions.get? e = some execution) :
    l'.executions.get? e = some execution ∧ l'.loaders.get? e = l.loaders.get? e := by
  have apart {d : CallerId} (acts : event.loader? = some d) : e ≠ d := by
    rintro rfl
    exact other acts
  cases step with
  | quiet _ _ _ _ => exact ⟨found, rfl⟩
  | @spawn c _ _ _ _ fresh =>
      have differs : e ≠ c := Table.ne_of_get? found fresh
      simp [differs, found]
  | hit _ _ _ _ _ => simp [conclude, apart rfl, found]
  | miss _ _ _ _ _ => simp [apart rfl, found]
  | start _ => simp [apart rfl, found]
  | load _ _ _ _ => simp [apart rfl, found]
  | fail _ _ _ => simp [conclude, apart rfl, found]
  | keep _ _ _ => simp [conclude, apart rfl, found]
  | overflow _ _ _ => simp [conclude, apart rfl, found]
  | pass _ _ _ => simp [conclude, apart rfl, found]
  | release _ => simp [apart rfl, found]

theorem Step.writes_of_writing (step : Step Asks l event l') (acts : event.loader? = some e)
    (loader : l.loaders.get? e = some ⟨kind, .writing p⟩)
    (running : l.executions.get? e = some ⟨key, .running⟩) : ∃ w, event = .write e w := by
  cases step with
  | quiet other _ _ _ => cases acts.symm.trans other
  | spawn _ _ _ => cases acts
  | keep _ _ _ | overflow _ _ _ | pass _ _ _ =>
      cases acts
      exact ⟨_, rfl⟩
  | release ending =>
      cases acts
      cases running.symm.trans ending
  -- The others find their loader in another phase.
  | hit was _ _ _ _ | miss was _ _ _ _ | start was | load was _ _ _ | fail was _ _ =>
      cases acts
      cases loader.symm.trans was

/-- A loader that holds a payload ends with its write. Nothing but the clock keeps it from the payload. -/
theorem Step.of_write (step : Step Asks l (.write e .kept) l')
    (loader : l.loaders.get? e = some ⟨kind, .writing p⟩)
    (running : l.executions.get? e = some ⟨key, .running⟩) :
    ∃ o, l'.executions.get? e = some ⟨key, .ending o⟩ ∧ (l.Reaches → o = .ok p) ∧
      (¬ l.Reaches → ∃ message, o = .error (.internal (.loaderPanicked message))) := by
  cases step with
  | quiet other _ _ _ => cases other
  | keep was runs written =>
      cases loader.symm.trans was
      cases running.symm.trans runs
      have inTime : l.Reaches := (MemoryStore.set?_isSome_iff _ _ _ _ _).mp (by rw [written]; rfl)
      exact ⟨.ok p, by simp [conclude], fun _ => rfl, fun late => absurd inTime late⟩
  | @overflow _ _ _ _ message was runs late =>
      cases loader.symm.trans was
      cases running.symm.trans runs
      have late : ¬ l.Reaches := by
        intro inTime
        have stored := (MemoryStore.set?_isSome_iff l.store l.now key p.encode _).mpr inTime
        rw [late] at stored
        cases stored
      exact ⟨_, by simp [conclude], fun inTime => absurd inTime late, fun _ => ⟨message, rfl⟩⟩
  | pass _ _ unkept => exact absurd rfl unkept

theorem Step.of_writing (step : Step Asks l event l') (loader : l.loaders.get? e = some ⟨kind, .writing p⟩)
    (running : l.executions.get? e = some ⟨key, .running⟩)
    (kept : event.Meets (fun _ => True) (· = .kept)) :
    (l'.loaders.get? e = some ⟨kind, .writing p⟩ ∧ l'.executions.get? e = some ⟨key, .running⟩) ∨
      event = .write e .kept ∧ ∃ o, l'.executions.get? e = some ⟨key, .ending o⟩ ∧
        (l.Reaches → o = .ok p) ∧
        (¬ l.Reaches → ∃ message, o = .error (.internal (.loaderPanicked message))) := by
  by_cases acts : event.loader? = some e
  · obtain ⟨w, rfl⟩ := step.writes_of_writing acts loader running
    cases (show w = .kept from kept)
    exact .inr ⟨rfl, step.of_write loader running⟩
  · obtain ⟨still, same⟩ := step.frame acts running
    exact .inl ⟨same.trans loader, still⟩

theorem Step.of_finish (step : Step Asks l (.finish e outcome) l') :
    ∃ key, (∃ p, outcome = .loaded p ∧ p.isEmpty = false ∧
        l'.loaders.get? e = some ⟨p.kind, .writing p⟩ ∧ l'.executions.get? e = some ⟨key, .running⟩) ∨
      ∃ err, outcome.result key = .error err ∧ l'.executions.get? e = some ⟨key, .ending (.error err)⟩ := by
  cases step with
  | quiet other _ _ _ => cases other
  | @load e key p loader running _ told =>
      exact ⟨key, .inl ⟨p, rfl, told, by simp, running⟩⟩
  | @fail e key kind outcome err loader running fails =>
      exact ⟨key, .inr ⟨err, fails, by simp [conclude]⟩⟩

end Loads

theorem Event.IsFaithful.keeps (event : Event) (faithful : event.IsFaithful kindOf) :
    event.Meets (fun _ => True) (· = .kept) := by
  cases event with
  | write e w => exact faithful.1
  | _ => trivial

theorem Event.Leads.isFaithful {outcome : CallerId → LoadOutcome} (leads : event.Leads c outcome) :
    event.IsFaithful kindOf := by
  cases event with
  | lookup c read => exact ⟨leads.2, trivial⟩
  | recheck e read => exact ⟨leads, trivial⟩
  | write e w => exact ⟨leads, trivial⟩
  | arrive c key kind context => cases leads
  | _ => exact ⟨trivial, trivial⟩

/-- What has become of an execution since its fetch function ended. -/
inductive Aftermath (ttl : Option Duration) (trace : List Event) (s : State) (e key : String) :
    LoadOutcome → Prop where
  | failed {outcome : LoadOutcome} {err : CallError} (fails : outcome.result key = .error err)
      (concludes : s.Concludes e key (.error err)) : Aftermath ttl trace s e key outcome
  | writing {p : Payload} {kind : PayloadKind} (told : p.isEmpty = false)
      (loader : s.loaders.get? e = some ⟨kind, .writing p⟩)
      (running : s.flight.group.executions.get? e = some ⟨key, .running⟩) :
      Aftermath ttl trace s e key (.loaded p)
  | written {p : Payload} {s₀ : State} {o : Outcome Payload} (told : p.isEmpty = false)
      (happened : Happened ttl trace s₀ (.write e .kept)) (concludes : s.Concludes e key o)
      (inTime : s₀.loads.Reaches → o = .ok p)
      (late : ¬ s₀.loads.Reaches → ∃ message, o = .error (.internal (.loaderPanicked message))) :
      Aftermath ttl trace s e key (.loaded p)

theorem Aftermath.step (after : Aftermath ttl trace s e key outcome) (reached : Reached ttl Allowed trace s)
    (allowed : Allowed event) (kept : event.Meets (fun _ => True) (· = .kept))
    (stepped : s.step event = some s') : Aftermath ttl (trace ++ [event]) s' e key outcome := by
  have remains {o : Outcome Payload} (concludes : s.Concludes e key o) : s'.Concludes e key o :=
    reached.concludes (List.forall_mem_singleton.mpr allowed) (by rw [State.run, stepped]; rfl) concludes
  cases after with
  | failed fails concludes => exact .failed fails (remains concludes)
  | writing told loader running =>
      rcases (reached.moves stepped).1.of_writing loader running kept with still | ⟨rfl, o, ended, rest⟩
      · exact .writing told still.1 still.2
      · exact .written told (reached.happened _) ⟨_, ended, rfl⟩ rest.1 rest.2
  | written told happened concludes inTime late =>
      exact .written told (happened.append _) (remains concludes) inTime late

theorem Reached.aftermath (reached : Reached ttl Allowed trace s)
    (kept : ∀ event, Allowed event → event.Meets (fun _ => True) (· = .kept))
    (ended : Event.finish e outcome ∈ trace) : ∃ key, Aftermath ttl trace s e key outcome := by
  induction reached with
  | initial => cases ended
  | @step trace s s' event before allowed stepped ih =>
      rcases List.mem_append.mp ended with early | last
      · obtain ⟨key, after⟩ := ih early
        exact ⟨key, after.step before allowed (kept event allowed) stepped⟩
      · cases List.mem_singleton.mp last
        obtain ⟨key, ⟨p, rfl, told, loader, running⟩ | ⟨err, fails, concluded⟩⟩ :=
          (before.moves stepped).1.of_finish
        · exact ⟨key, .writing told loader running⟩
        · exact ⟨key, .failed fails ⟨_, concluded, rfl⟩⟩

/-- An execution that got a payload ends with it, or in a panic when its entry would outlive the clock. -/
theorem Reached.outcome_of_loaded (reached : Reached ttl Allowed trace s)
    (kept : ∀ event, Allowed event → event.Meets (fun _ => True) (· = .kept))
    (loaded : Event.finish e (.loaded p) ∈ trace) (told : p.isEmpty = false)
    (concludes : s.Concludes e key o) :
    ∃ s₀, Happened ttl trace s₀ (.write e .kept) ∧ (s₀.loads.Reaches → o = .ok p) ∧
      (¬ s₀.loads.Reaches → ∃ message, o = .error (.internal (.loaderPanicked message))) := by
  obtain ⟨own, after⟩ := reached.aftermath kept loaded
  cases after with
  | failed fails _ => simp [LoadOutcome.result, told] at fails
  | writing _ _ running =>
      obtain ⟨phase, found, ended⟩ := concludes
      rw [running] at found
      cases found
      cases ended
  | @written _ s₀ o' _ happened concludes' inTime late =>
      cases concludes.unique concludes'
      exact ⟨s₀, happened, inTime, late⟩

theorem Reached.reaches_of_le {Allowed' : Event → Prop} {trace' : List Event}
    (reached : Reached ttl Allowed trace s) (reached' : Reached ttl Allowed' trace' s')
    (earlier : s'.now ≤ s.now) (reaches : s.loads.Reaches) : s'.loads.Reaches := by
  intro d lives
  have lives : ValueStore.lifetime s'.ttl = some d := lives
  rw [reached'.ttl_eq, ← reached.ttl_eq] at lives
  exact Nat.lt_of_le_of_lt (Nat.add_le_add_right earlier d.nanos) (reaches d lives)

theorem Reached.reached_before (reached : Reached ttl Allowed trace s)
    (happened : Happened ttl trace s₀ event) (reaches : s.loads.Reaches) : s₀.loads.Reaches := by
  obtain ⟨front, rest, rfl, before, run, allowed⟩ := reached.since happened
  have later : s₀.now ≤ s.now := by
    refine before.preserves (s₀.now ≤ ·.now) allowed run ?_ (Nat.le_refl _)
    intro _ s event s' before _ stepped le
    exact Nat.le_trans le (before.moves stepped).1.now_le
  exact reached.reaches_of_le before later reaches

theorem Reached.error_of_loaded (reached : Reached ttl (Event.IsFaithful kindOf) trace s)
    (loaded : Event.finish e (.loaded p) ∈ trace) (reaches : s.loads.Reaches) {err : CallError}
    (concludes : s.Concludes e key (.error err)) : ∃ key, err = .emptyPayload key := by
  obtain ⟨own, after⟩ := reached.aftermath Event.IsFaithful.keeps loaded
  cases after with
  | failed fails concludes' =>
      cases concludes.unique concludes'
      rw [LoadOutcome.result] at fails
      split at fails
      · cases fails
        exact ⟨own, rfl⟩
      · cases fails
  | writing _ _ running =>
      obtain ⟨phase, found, ended⟩ := concludes
      rw [running] at found
      cases found
      cases ended
  | written _ happened concludes' inTime _ =>
      cases concludes.unique concludes'
      cases inTime (reached.reached_before happened reaches)

theorem Joined.shares (joined : Joined ttl trace c e) (reached : Reached ttl Allowed trace s)
    (asks : ∀ event, Allowed event → event.IsAsked (kindOf · = ·))
    (present : s.callers.get? c = some caller) :
    ∃ loader, s.loaders.get? e = some ⟨caller.kind, loader⟩ := by
  obtain ⟨own, present', phase, found⟩ := joined.waiter reached
  rw [present] at present'
  cases present'
  obtain ⟨sound, calls⟩ := reached.sound asks
  have wanted : kindOf caller.key = caller.kind := calls.asked c caller present
  obtain ⟨⟨kind, loader⟩, attends, loads, _⟩ := sound.attended e caller.key phase found
  have loads : kindOf caller.key = kind := loads
  exact ⟨loader, wanted ▸ loads ▸ attends⟩

theorem Reached.payload_of_result (reached : Reached ttl (Event.IsFaithful kindOf) trace s)
    (present : s.callers.get? c = some caller) (joined : Joined ttl trace c e)
    (loaded : Event.finish e (.loaded p) ∈ trace) (told : p.isEmpty = false)
    (reaches : s.loads.Reaches) (returns : s.result? c = some r) :
    r = .ok p ∨ ∃ err, r = .error err ∧ caller.context.Causes s.flight.tokens s.now err := by
  rcases joined.origin reached present returns with refused | ⟨o, ended, rfl⟩
  · exact .inr refused
  · have concludes : s.Concludes e caller.key o := ⟨_, ended, rfl⟩
    obtain ⟨s₀, happened, inTime, _⟩ :=
      reached.outcome_of_loaded Event.IsFaithful.keeps loaded told concludes
    cases inTime (reached.reached_before happened reaches)
    obtain ⟨loader, own⟩ := joined.shares reached (fun _ faithful => faithful.2) present
    exact .inl (if_pos (reached.kind_of_concludes own concludes))

theorem Reached.returns_payload (reached : Reached ttl (Event.IsFaithful kindOf) trace s)
    (present : s.callers.get? c = some caller) (joined : Joined ttl trace c e)
    (loaded : Event.finish e (.loaded p) ∈ trace) (told : p.isEmpty = false)
    (reaches : s.loads.Reaches) (going : caller.context.check s.flight.tokens s.now = none)
    (stays : ¬ s.HasLeft c) :
    ∃ more s', (∀ event ∈ more, event.IsFaithful kindOf) ∧ s.run more = some s' ∧ s'.now = s.now ∧
      s'.result? c = some (.ok p) := by
  -- A caller that has its result by now waits no more, and one that waits can be led to the end.
  have waits : ∃ more s' r, (∀ event ∈ more, event.Leads c fun _ => .failed .cancelled) ∧
      s.run more = some s' ∧ s'.now = s.now ∧ s'.callers.get? c = some caller ∧
      caller.context.check s'.flight.tokens s'.now = none ∧ s'.result? c = some r := by
    obtain ⟨call, called⟩ := joined.called reached
    cases own : call.phase with
    | waiting e' =>
        exact (reached.mono fun _ _ => trivial).takes_of_waiting present going called own (by simp)
    | returned r =>
        obtain ⟨flying, _⟩ := reached.isSound.2.flying present called
        refine ⟨[], s, State.ofKind caller.kind r, by simp, rfl, rfl, present, going, ?_⟩
        obtain ⟨_, _, _⟩ := call
        cases own
        rw [State.result?, present]
        dsimp only
        rw [flying, Flight.State.result?, called]
        rfl
    | dropped => exact absurd (.inr ⟨call, called, own⟩) stays
  obtain ⟨more, s', r, leads, run, now, still, good, result⟩ := waits
  have faithful (event : Event) (member : event ∈ more) : event.IsFaithful kindOf :=
    (leads event member).isFaithful
  have after := reached.extend faithful run
  have reaches' := reached.reaches_of_le after (Nat.le_of_eq now) reaches
  have ended : Event.finish e (.loaded p) ∈ trace ++ more := List.mem_append_left _ loaded
  rcases after.payload_of_result still (joined.append more) ended told reaches' result with
    rfl | ⟨err, _, causes⟩
  · exact ⟨more, s', faithful, run, now, result⟩
  · exact absurd causes (CallContext.not_causes_of_check good)

theorem Reached.internal_of_result (reached : Reached ttl (Event.IsFaithful kindOf) trace s)
    (present : s.callers.get? c = some caller) (reaches : s.loads.Reaches) {cause : InternalCause}
    (returns : s.result? c = some (.error (.internal cause))) :
    ∃ e, Joined ttl trace c e ∧ (Event.finish e (.failed (.internal cause)) ∈ trace ∨
      ∃ message, cause = .loaderPanicked message ∧ Event.finish e (.panicked message) ∈ trace) := by
  rcases reached.origin_of_error present returns with causes | ⟨e, o, joined, ended, typed⟩
  · exact absurd causes (CallContext.not_causes_internal cause)
  · refine ⟨e, joined, ?_⟩
    obtain ⟨loader, own⟩ := joined.shares reached (fun _ faithful => faithful.2) present
    cases o with
    | ok p =>
        rw [State.ofKind, if_pos (reached.kind_of_concludes own ⟨_, ended, rfl⟩)] at typed
        cases typed
    | error err =>
        cases typed
        have concludes : s.Concludes e caller.key (.error (.internal cause)) := ⟨_, ended, rfl⟩
        rcases reached.error_of_concludes concludes with failed | empty | ⟨message, panicked, came⟩
        · exact .inl failed
        · cases empty
        · cases panicked
          refine .inr ⟨message, rfl, ?_⟩
          rcases came with panicked | ⟨p, loaded⟩
          · exact panicked
          · obtain ⟨key, empty⟩ := reached.error_of_loaded loaded reaches concludes
            cases empty

end Fetch

end PlaceGateway
