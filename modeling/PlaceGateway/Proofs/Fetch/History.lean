import PlaceGateway.Proofs.Fetch.Run
/-! What a run tells about each loader and each caller: how often a fetch function was called, how it
ended, and where an answer comes from. -/

namespace PlaceGateway.Fetch

open Flight (Call CallerId CallPhase Execution Outcome Phase)

def Event.isStart (e : CallerId) : Event → Bool
  | start other => other == e
  | _ => false

def Event.end? (e : CallerId) : Event → Option LoadOutcome
  | finish other outcome => if other = e then some outcome else none
  | _ => none

def starts (trace : List Event) (e : CallerId) : Nat := trace.countP (Event.isStart e)

def ends (trace : List Event) (e : CallerId) : List LoadOutcome := trace.filterMap (Event.end? e)

/-- What has happened for a loader in its phase. -/
inductive Story (ttl : Option Duration) (trace : List Event) (e key : String) (kind : PayloadKind) :
    LoaderPhase → Phase Payload → Prop where
  | spawned (started : starts trace e = 0) (ended : ends trace e = []) :
      Story ttl trace e key kind .spawned .running
  | missed (started : starts trace e = 0) (ended : ends trace e = []) :
      Story ttl trace e key kind .missed .running
  | loading (started : starts trace e = 1) (ended : ends trace e = []) :
      Story ttl trace e key kind .loading .running
  | writing {p : Payload} (started : starts trace e = 1) (ended : ends trace e = [.loaded p])
      (own : p.kind = kind) (told : p.isEmpty = false) :
      Story ttl trace e key kind (.writing p) .running
  | found {s : State} {read : Read} {p : Payload} {phase : Phase Payload}
      (started : starts trace e = 0) (ended : ends trace e = [])
      (happened : Happened ttl trace s (.recheck e read))
      (value : read.payload? s.store s.now key kind = some p)
      (outcome : phase.outcome? = some (.ok p)) :
      Story ttl trace e key kind .done phase
  | loaded {result : LoadOutcome} {phase : Phase Payload}
      (started : starts trace e = 1) (ended : ends trace e = [result])
      (own : ∀ p, result.result key = .ok p → p.kind = kind)
      (outcome : phase.outcome? = some (result.result key)) :
      Story ttl trace e key kind .done phase
  | overflow {p : Payload} {message : String} {phase : Phase Payload}
      (started : starts trace e = 1) (ended : ends trace e = [.loaded p])
      (kept : Event.write e .kept ∈ trace)
      (outcome : phase.outcome? = some (.error (.internal (.loaderPanicked message)))) :
      Story ttl trace e key kind .done phase

/-- The loaders of a state have the stories that the run tells. -/
structure Told (ttl : Option Duration) (trace : List Event) (l : Loads) : Prop where
  silent : ∀ e, l.loaders.get? e = none → starts trace e = 0 ∧ ends trace e = []
  story : ∀ e kind loader key phase, l.loaders.get? e = some ⟨kind, loader⟩ →
    l.executions.get? e = some ⟨key, phase⟩ → Story ttl trace e key kind loader phase

variable {ttl : Option Duration} {Allowed : Event → Prop} {Asks : String → PayloadKind → Prop}
  {trace : List Event} {event : Event} {e key : String} {kind : PayloadKind} {loader : LoaderPhase}
  {phase phase' : Phase Payload} {l l' : Loads} {s s' : State}

theorem starts_concat (trace : List Event) (event : Event) (e : CallerId) :
    starts (trace ++ [event]) e = starts trace e + if event.isStart e then 1 else 0 := by
  rw [starts, List.countP_append, List.countP_singleton]
  rfl

theorem ends_concat (trace : List Event) (event : Event) (e : CallerId) :
    ends (trace ++ [event]) e = ends trace e ++ (event.end? e).toList := by
  rw [ends, List.filterMap_append, ends]
  cases ended : event.end? e <;> simp [ended]

theorem mem_of_ends {outcome : LoadOutcome} (ended : outcome ∈ ends trace e) :
    Event.finish e outcome ∈ trace := by
  obtain ⟨event, member, own⟩ := List.mem_filterMap.mp ended
  cases event with
  | finish other result =>
      rw [Event.end?] at own
      split at own
      · rename_i same
        cases own
        rwa [← same]
      · cases own
  | _ => cases own

def Event.Spares (e : CallerId) (event : Event) : Prop := event.isStart e = false ∧ event.end? e = none

theorem starts_spared (spared : event.Spares e) (trace : List Event) :
    starts (trace ++ [event]) e = starts trace e := by
  rw [starts_concat, spared.1]
  rfl

theorem ends_spared (spared : event.Spares e) (trace : List Event) :
    ends (trace ++ [event]) e = ends trace e := by
  rw [ends_concat, spared.2]
  exact List.append_nil _

theorem spares_of_other (other : event.loader? ≠ some e) : event.Spares e := by
  cases event with
  | start own =>
      have differs : own ≠ e := fun same => other (congrArg some same)
      exact ⟨by simpa [Event.isStart] using differs, rfl⟩
  | finish own outcome =>
      have differs : own ≠ e := fun same => other (congrArg some same)
      exact ⟨rfl, if_neg differs⟩
  | _ => exact ⟨rfl, rfl⟩

theorem Story.later (story : Story ttl trace e key kind loader phase) (spared : event.Spares e)
    (same : loader.isDone = false → phase' = phase) (becomes : phase.Becomes phase') :
    Story ttl (trace ++ [event]) e key kind loader phase' := by
  have started := starts_spared spared trace
  have ended := ends_spared spared trace
  cases story with
  | spawned first second =>
      rw [same rfl]
      exact .spawned (started.trans first) (ended.trans second)
  | missed first second =>
      rw [same rfl]
      exact .missed (started.trans first) (ended.trans second)
  | loading first second =>
      rw [same rfl]
      exact .loading (started.trans first) (ended.trans second)
  | writing first second own told =>
      rw [same rfl]
      exact .writing (started.trans first) (ended.trans second) own told
  | found first second happened value outcome =>
      exact .found (started.trans first) (ended.trans second) (happened.append _) value
        (becomes.outcome? outcome)
  | loaded first second own outcome =>
      exact .loaded (started.trans first) (ended.trans second) own (becomes.outcome? outcome)
  | overflow first second kept outcome =>
      exact .overflow (started.trans first) (ended.trans second) (List.mem_append_left _ kept)
        (becomes.outcome? outcome)

theorem Told.quiet (told : Told ttl trace l) (other : event.loader? = none) (now : Instant)
    (store : MemoryStore) : Told ttl (trace ++ [event]) { l with now, store } where
  silent e absent := by
    have spared : event.Spares e := spares_of_other (by simp [other])
    obtain ⟨started, ended⟩ := told.silent e absent
    exact ⟨(starts_spared spared trace).trans started, (ends_spared spared trace).trans ended⟩
  story e kind loader key phase present found :=
    (told.story e kind loader key phase present found).later (spares_of_other (by simp [other]))
      (fun _ => rfl) (.inr (.inl rfl))

theorem Told.set (told : Told ttl trace l) (others : ∀ other, other ≠ e → event.Spares other)
    (store : MemoryStore) (story : Story ttl (trace ++ [event]) e key kind loader phase) :
    Told ttl (trace ++ [event]) { l with
      store
      executions := l.executions.set e ⟨key, phase⟩
      loaders := l.loaders.set e ⟨kind, loader⟩ } where
  silent other absent := by
    obtain ⟨same, before⟩ := Table.get?_set_eq_none absent
    obtain ⟨started, ended⟩ := told.silent other before
    exact ⟨(starts_spared (others other same) trace).trans started,
      (ends_spared (others other same) trace).trans ended⟩
  story other kind' loader' key' phase' present found := by
    by_cases same : other = e
    · subst same
      simp only [Table.get?_set, if_true, Option.some.injEq, Loader.mk.injEq, Execution.mk.injEq]
        at present found
      obtain ⟨rfl, rfl⟩ := present
      obtain ⟨rfl, rfl⟩ := found
      exact story
    · simp only [Table.get?_set, if_neg same] at present found
      exact (told.story other kind' loader' key' phase' present found).later (others other same)
        (fun _ => rfl) (.inr (.inl rfl))

theorem Told.advance (told : Told ttl trace l) (others : ∀ other, other ≠ e → event.Spares other)
    (store : MemoryStore) (running : l.executions.get? e = some ⟨key, .running⟩)
    (story : Story ttl (trace ++ [event]) e key kind loader .running) :
    Told ttl (trace ++ [event]) { l with store, loaders := l.loaders.set e ⟨kind, loader⟩ } := by
  have moved := told.set others store story
  rwa [Table.set_self _ _ _ running] at moved

theorem spares_of_loader (acts : event.loader? = some e) (other : CallerId) (differs : other ≠ e) :
    event.Spares other := by
  refine spares_of_other ?_
  rw [acts]
  exact fun same => differs (Option.some.inj same).symm

theorem Story.starts (story : Story ttl trace e key kind .missed phase) :
    Story ttl (trace ++ [.start e]) e key kind .loading .running := by
  cases story with
  | missed started ended =>
      refine .loading ?_ ?_
      · rw [starts_concat, started]
        simp [Event.isStart]
      · rw [ends_concat, ended]
        rfl

theorem Story.finishes (story : Story ttl trace e key kind .loading phase) (result : LoadOutcome) :
    Fetch.starts (trace ++ [.finish e result]) e = 1 ∧
      ends (trace ++ [.finish e result]) e = [result] := by
  cases story with
  | loading started ended =>
      constructor
      · rw [starts_concat, started]
        rfl
      · rw [ends_concat, ended]
        simp [Event.end?]

theorem Story.loads {p : Payload} (story : Story ttl trace e key p.kind .loading phase)
    (told : p.isEmpty = false) :
    Story ttl (trace ++ [.finish e (.loaded p)]) e key p.kind (.writing p) .running := by
  obtain ⟨started, ended⟩ := story.finishes (.loaded p)
  exact .writing started ended rfl told

theorem Story.fails {result : LoadOutcome} {err : CallError}
    (story : Story ttl trace e key kind .loading phase) (fails : result.result key = .error err) :
    Story ttl (trace ++ [.finish e result]) e key kind .done (.ending (.error err)) := by
  obtain ⟨started, ended⟩ := story.finishes result
  refine .loaded started ended ?_ (congrArg some fails.symm)
  intro p ok
  rw [fails] at ok
  cases ok

theorem Story.written {p : Payload} (story : Story ttl trace e key kind (.writing p) phase)
    (spared : event.Spares e) : Story ttl (trace ++ [event]) e key kind .done (.ending (.ok p)) := by
  cases story with
  | writing started ended own told =>
      have result : (LoadOutcome.loaded p).result key = .ok p := by
        simp [LoadOutcome.result, told]
      refine .loaded ((starts_spared spared trace).trans started)
        ((ends_spared spared trace).trans ended) ?_ (congrArg some result.symm)
      intro p' ok
      rw [result] at ok
      cases ok
      exact own

theorem Story.overflows {p : Payload} (story : Story ttl trace e key kind (.writing p) phase)
    (message : String) : Story ttl (trace ++ [.write e .kept]) e key kind .done
      (.ending (.error (.internal (.loaderPanicked message)))) := by
  have spared : (Event.write e .kept).Spares e := ⟨rfl, rfl⟩
  cases story with
  | writing started ended _ _ =>
      exact .overflow ((starts_spared spared trace).trans started)
        ((ends_spared spared trace).trans ended) (List.mem_append_right _ List.mem_cons_self) rfl

theorem Story.rechecks {read : Read} (story : Story ttl trace e key kind .spawned phase) :
    Story ttl (trace ++ [.recheck e read]) e key kind .missed .running ∧
      ∀ s p, Happened ttl (trace ++ [.recheck e read]) s (.recheck e read) →
        read.payload? s.store s.now key kind = some p →
          Story ttl (trace ++ [.recheck e read]) e key kind .done (.ending (.ok p)) := by
  have spared : (Event.recheck e read).Spares e := ⟨rfl, rfl⟩
  cases story with
  | spawned started ended =>
      have started := (starts_spared spared trace).trans started
      have ended := (ends_spared spared trace).trans ended
      exact ⟨.missed started ended, fun s p happened found => .found started ended happened found rfl⟩

theorem Told.step (told : Told ttl trace s.loads) (sound : s.loads.Sound Asks)
    (happened : ∀ event, Happened ttl (trace ++ [event]) s event)
    (step : Loads.Step Asks s.loads event l') : Told ttl (trace ++ [event]) l' := by
  generalize same : s.loads = l at told sound step
  cases step with
  | quiet other _ _ _ => exact told.quiet other _ _
  | @spawn c key kind asked free fresh =>
      have spared (e : CallerId) : (Event.enter c).Spares e := ⟨rfl, rfl⟩
      obtain ⟨started, ended⟩ := told.silent c (sound.unattended fresh)
      have story : Story ttl (trace ++ [.enter c]) c key kind .spawned .running :=
        .spawned ((starts_spared (spared c) trace).trans started)
          ((ends_spared (spared c) trace).trans ended)
      have next := told.set (fun e _ => spared e) l.store story
      exact ⟨next.silent, next.story⟩
  | @hit e read key kind p store loader running found _ _ =>
      have story := told.story e kind _ key _ loader running
      subst same
      exact told.set (spares_of_loader rfl) store (story.rechecks.2 s p (happened _) found)
  | @miss e read key kind store loader running _ _ _ =>
      have story := told.story e kind _ key _ loader running
      exact told.advance (spares_of_loader rfl) store running story.rechecks.1
  | @start e kind loader =>
      obtain ⟨key, running, _⟩ := sound.running loader rfl
      have story := told.story e kind _ key _ loader running
      exact told.advance (spares_of_loader rfl) l.store running story.starts
  | @load e key p loader running _ nonempty =>
      have story := told.story e p.kind _ key _ loader running
      exact told.advance (spares_of_loader rfl) l.store running (story.loads nonempty)
  | @fail e key kind outcome err loader running fails =>
      have story := told.story e kind _ key _ loader running
      exact told.set (spares_of_loader rfl) l.store (story.fails fails)
  | @keep e key kind p store loader running _ =>
      have story := told.story e kind _ key _ loader running
      exact told.set (spares_of_loader rfl) store (story.written ⟨rfl, rfl⟩)
  | @overflow e key kind p message loader running _ =>
      have story := told.story e kind _ key _ loader running
      exact told.set (spares_of_loader rfl) l.store (story.overflows message)
  | @pass e w key kind p loader running _ =>
      have story := told.story e kind _ key _ loader running
      exact told.set (spares_of_loader rfl) l.store (story.written ⟨rfl, rfl⟩)
  | @release e key o ending =>
      obtain ⟨⟨kind, loader⟩, present, _, agrees⟩ := sound.attended e key _ ending
      have spared : (Event.release e).Spares e := ⟨rfl, rfl⟩
      -- The loader is done by now, so its story may go on in another phase.
      have becomes : Flight.Phase.Becomes (.ending o) (.ended o) := .inr (.inr ⟨o, rfl, rfl⟩)
      have story := (told.story e kind loader key _ present ending).later spared
        (fun active => by rw [active] at agrees; cases agrees) becomes
      have next := told.set (spares_of_loader rfl) l.store story
      rw [Table.set_self _ _ _ present] at next
      exact ⟨next.silent, next.story⟩

theorem Reached.told (reached : Reached ttl Allowed trace s) : Told ttl trace s.loads := by
  induction reached with
  | initial => exact ⟨fun _ _ => ⟨rfl, rfl⟩, fun _ _ _ _ _ present => by cases present⟩
  | step before _ stepped ih =>
      exact ih.step before.isSound.1 before.happened (before.moves stepped).1

/-- The caller started the execution or joined it. -/
def Joined (ttl : Option Duration) (trace : List Event) (c e : CallerId) : Prop :=
  ∃ s s' call, Happened ttl trace s (.enter c) ∧ s.step (.enter c) = some s' ∧
    s'.flight.calls.get? c = some call ∧ call.phase = .waiting e

def Served (ttl : Option Duration) (trace : List Event) (l : Loads) (v : Calls) (c : CallerId)
    (caller : Caller) : Prop :=
  ∀ r, caller.phase = .returned r →
    (∃ err, r = .error err ∧ caller.context.Causes v.tokens l.now err) ∨
      ∃ p read s, r = .ok p ∧ Happened ttl trace s (.lookup c read) ∧
        read.payload? s.store s.now caller.key caller.kind = some p

def Answered (ttl : Option Duration) (trace : List Event) (l : Loads) (v : Calls) (c : CallerId)
    (call : Call Payload) : Prop :=
  match call.phase with
  | .waiting e => Joined ttl trace c e
  | .returned r => (∃ err, r = .error err ∧ call.context.Causes v.tokens l.now err) ∨
      ∃ e, Joined ttl trace c e ∧ l.executions.get? e = some ⟨call.key, .ended r⟩
  | .dropped => True

structure Recalled (ttl : Option Duration) (trace : List Event) (l : Loads) (v : Calls) : Prop where
  callers : ∀ c caller, v.callers.get? c = some caller → Served ttl trace l v c caller
  calls : ∀ c call, v.calls.get? c = some call → Answered ttl trace l v c call

variable {v v' : Calls} {c : CallerId} {caller : Caller} {call : Call Payload}

theorem Joined.append {e : CallerId} (joined : Joined ttl trace c e) (more : List Event) :
    Joined ttl (trace ++ more) c e := by
  obtain ⟨s, s', call, happened, rest⟩ := joined
  exact ⟨s, s', call, happened.append more, rest⟩

theorem Served.later (served : Served ttl trace l v c caller) (step : Loads.Step Asks l event l')
    (called : Calls.Step l l' v event v') : Served ttl (trace ++ [event]) l' v' c caller := by
  intro r returned
  rcases served r returned with ⟨err, refused, causes⟩ | ⟨p, read, s, ok, happened, found⟩
  · exact .inl ⟨err, refused, causes.mono called.cancelled step.now_le⟩
  · exact .inr ⟨p, read, s, ok, happened.append _, found⟩

theorem Answered.later (answered : Answered ttl trace l v c call) (step : Loads.Step Asks l event l')
    (called : Calls.Step l l' v event v') : Answered ttl (trace ++ [event]) l' v' c call := by
  obtain ⟨key, context, phase⟩ := call
  cases phase with
  | waiting e => exact Joined.append answered _
  | returned r =>
      rcases answered with ⟨err, refused, causes⟩ | ⟨e, joined, ended⟩
      · exact .inl ⟨err, refused, causes.mono called.cancelled step.now_le⟩
      · obtain ⟨phase, present, becomes⟩ := step.keeps ended
        rw [becomes.ended] at present
        exact .inr ⟨e, joined.append _, present⟩
  | dropped => trivial

theorem Recalled.later (recalled : Recalled ttl trace l v) (step : Loads.Step Asks l event l')
    (called : Calls.Step l l' v event v') :
    (∀ c caller, v.callers.get? c = some caller → Served ttl (trace ++ [event]) l' v' c caller) ∧
      ∀ c call, v.calls.get? c = some call → Answered ttl (trace ++ [event]) l' v' c call :=
  ⟨fun c caller present => (recalled.callers c caller present).later step called,
    fun c call present => (recalled.calls c call present).later step called⟩

theorem Recalled.step (recalled : Recalled ttl trace s.loads s.calls)
    (before : Reached ttl Allowed trace s) (asks : ∀ event, Allowed event → event.IsAsked Asks)
    (stepped : s.step event = some s') : Recalled ttl (trace ++ [event]) s'.loads s'.calls := by
  obtain ⟨step, called⟩ := before.steps asks stepped
  obtain ⟨callers, calls⟩ := recalled.later step called
  have sound := (before.sound asks).2
  have happened := before.happened
  generalize after : s'.calls = v' at called callers calls ⊢
  cases called with
  | idle _ _ _ => exact ⟨callers, calls⟩
  | arrive _ _ => exact ⟨Table.forall_set callers (fun r returned => by cases returned), calls⟩
  | move _ _ _ _ pending =>
      exact ⟨Table.forall_set callers (fun r returned => absurd returned (pending r)), calls⟩
  | refuse _ _ causes =>
      refine ⟨Table.forall_set callers ?_, calls⟩
      intro r returned
      cases returned
      exact .inl ⟨_, rfl, causes.mono (fun was => was) step.now_le⟩
  | serve _ _ found =>
      refine ⟨Table.forall_set callers ?_, calls⟩
      intro r returned
      cases returned
      exact .inr ⟨_, _, s, rfl, happened _, found⟩
  | decline _ _ causes =>
      exact ⟨Table.forall_set callers (fun r returned => by cases returned),
        Table.forall_set calls (.inl ⟨_, rfl, causes.mono (fun was => was) step.now_le⟩)⟩
  | @attach c e caller phase _ _ _ =>
      have call : s'.calls.calls.get? c = some ⟨caller.key, caller.context, .waiting e⟩ := by
        have set := congrArg (·.calls.get? c) after
        simpa [Calls.setCall] using set
      exact ⟨Table.forall_set callers (fun r returned => by cases returned),
        Table.forall_set calls ⟨s, s', _, happened _, stepped, call, rfl⟩⟩
  | @receive c e call key o present waiting ended =>
      have joined : Joined ttl trace c e := by
        have answered := recalled.calls c call present
        rwa [Answered, waiting] at answered
      obtain ⟨phase, attached⟩ := sound.attached c call e present waiting
      obtain ⟨phase', kept, becomes⟩ := step.keeps ended
      rw [becomes.ended] at kept
      have own : key = call.key := by
        rw [ended] at attached
        cases attached
        rfl
      exact ⟨callers, Table.forall_set calls (.inr ⟨e, joined.append _, own ▸ kept⟩)⟩
  | giveUp _ _ causes =>
      exact ⟨callers, Table.forall_set calls
        (.inl ⟨_, rfl, causes.mono (fun was => was) step.now_le⟩)⟩
  | leave _ => exact ⟨callers, Table.forall_set calls trivial⟩

theorem Reached.recalled (reached : Reached ttl Allowed trace s) :
    Recalled ttl trace s.loads s.calls := by
  induction reached with
  | initial => exact ⟨fun _ _ present => (by cases present), fun _ _ present => (by cases present)⟩
  | step before _ stepped ih => exact ih.step before (fun event _ => event.isAsked_any) stepped

/-- The result of a caller is the fault of its own context, or was found by its lookup and the caller
never entered, or is what an execution that it started or joined has come to. -/
theorem Reached.origin (reached : Reached ttl Allowed trace s) {r : Outcome Payload}
    (present : s.callers.get? c = some caller) (returns : s.result? c = some r) :
    (∃ err, r = .error err ∧ caller.context.Causes s.flight.tokens s.now err) ∨
      (s.flight.calls.get? c = none ∧ ∃ p read s₀, r = .ok p ∧
        Happened ttl trace s₀ (.lookup c read) ∧
        read.payload? s₀.store s₀.now caller.key caller.kind = some p) ∨
      ∃ e o, Joined ttl trace c e ∧
        s.flight.group.executions.get? e = some ⟨caller.key, .ended o⟩ ∧
        r = State.ofKind caller.kind o := by
  have recalled := reached.recalled
  obtain ⟨_, sound⟩ := reached.isSound
  rw [State.result?, present] at returns
  dsimp only at returns
  split at returns
  · rename_i result returned
    cases returns
    rcases recalled.callers c caller present _ returned with refused | served
    · exact .inl refused
    · exact .inr (.inl ⟨sound.free present (by simp [returned]), served⟩)
  · obtain ⟨o, delivered, rfl⟩ := Option.map_eq_some_iff.mp returns
    obtain ⟨call, called, returned⟩ := Flight.State.returned_of_result? delivered
    obtain ⟨_, key, context⟩ := sound.flying present called
    have answered := recalled.calls c call called
    rw [Answered, returned, ← key, ← context] at answered
    rcases answered with ⟨err, rfl, causes⟩ | ⟨e, joined, ended⟩
    · exact .inl ⟨err, rfl, causes⟩
    · exact .inr (.inr ⟨e, o, joined, ended, rfl⟩)
  · cases returns

theorem Reached.origin_of_error (reached : Reached ttl Allowed trace s) {err : CallError}
    (present : s.callers.get? c = some caller) (returns : s.result? c = some (.error err)) :
    caller.context.Causes s.flight.tokens s.now err ∨
      ∃ e o, Joined ttl trace c e ∧ s.flight.group.executions.get? e = some ⟨caller.key, .ended o⟩ ∧
        .error err = State.ofKind caller.kind o := by
  rcases reached.origin present returns with ⟨_, own, causes⟩ | ⟨_, served⟩ | answered
  · cases own
    exact .inl causes
  · obtain ⟨p, _, _, ok, _⟩ := served
    cases ok
  · exact .inr answered

/-- An execution that ends badly has a fetch function that ended so, or a loader that panicked over writing
what it got. -/
theorem Reached.failure_of_concludes (reached : Reached ttl Allowed trace s) {err : CallError}
    (concludes : s.Concludes e key (.error err)) :
    (∃ outcome, Event.finish e outcome ∈ trace ∧ outcome.result key = .error err) ∨
      ∃ p message, Event.finish e (.loaded p) ∈ trace ∧ Event.write e .kept ∈ trace ∧
        err = .internal (.loaderPanicked message) := by
  obtain ⟨sound, _⟩ := reached.isSound
  obtain ⟨phase, present, told⟩ := concludes
  obtain ⟨⟨kind, loader⟩, found, _⟩ := sound.attended e key phase present
  cases reached.told.story e kind loader key phase found present with
  | found _ _ _ _ outcome =>
      rw [outcome] at told
      cases told
  | @loaded result phase _ ended _ outcome =>
      rw [outcome] at told
      exact .inl ⟨result, mem_of_ends (by simp [ended]), Option.some.inj told⟩
  | @overflow p message phase _ ended kept outcome =>
      rw [outcome] at told
      cases told
      exact .inr ⟨p, message, mem_of_ends (by simp [ended]), kept, rfl⟩
  | _ => cases told

theorem Reached.entered_before {front rest : List Event} {s₀ s₁ : State}
    (reached : Reached ttl Allowed front s₀) (stepped : s₀.step (.enter c) = some s₁)
    (allowed : ∀ event ∈ rest, Allowed event) (own : Allowed (.enter c)) (run : s₁.run rest = some s) :
    s.step (.enter c) = none := by
  have called : ∃ call, s₁.flight.calls.get? c = some call := (reached.moves stepped).2.enters.2
  cases again : s.step (.enter c) with
  | none => rfl
  | some s' =>
      have last := (reached.step own stepped).extend allowed run
      obtain ⟨call, present⟩ := (reached.step own stepped).called allowed run called
      have new : s.flight.calls.get? c = none := (last.moves again).2.enters.1
      rw [new] at present
      cases present

theorem Joined.called {e : CallerId} (reached : Reached ttl Allowed trace s)
    (joined : Joined ttl trace c e) : ∃ call, s.flight.calls.get? c = some call := by
  obtain ⟨s₁, t₁, call, happened, stepped, called, _⟩ := joined
  obtain ⟨front, rest, rfl, before, run, allowed⟩ := reached.since happened
  rw [State.run, stepped, Option.bind_some] at run
  exact (before.step (allowed _ List.mem_cons_self) stepped).called
    (fun later member => allowed later (List.mem_cons_of_mem _ member)) run ⟨call, called⟩

theorem Joined.unique {e e' : CallerId} (reached : Reached ttl Allowed trace s)
    (one : Joined ttl trace c e) (other : Joined ttl trace c e') : e = e' := by
  obtain ⟨s₁, t₁, call₁, happened₁, stepped₁, called₁, waits₁⟩ := one
  obtain ⟨s₂, t₂, call₂, happened₂, stepped₂, called₂, waits₂⟩ := other
  obtain ⟨front₁, rest₁, rfl, before₁, _, allowed₁⟩ := reached.since happened₁
  obtain ⟨front₂, rest₂, split, before₂, _, allowed₂⟩ := reached.since happened₂
  -- Of two entries one comes first, and after it the caller has a call and enters no more.
  have later {front mid rest front' rest' : List Event} {s t s' : State}
      (before : Reached ttl Allowed front s) (stepped : s.step (.enter c) = some t)
      (before' : Reached ttl Allowed front' s') (again : s'.step (.enter c) ≠ none)
      (longer : front' = front ++ mid)
      (tail : Event.enter c :: rest = mid ++ Event.enter c :: rest') : s = s' := by
    cases mid with
    | nil =>
        rw [List.append_nil] at longer
        subst longer
        exact Option.some.inj (before.run.symm.trans before'.run)
    | cons event mid =>
        exfalso
        rw [List.cons_append] at tail
        cases tail
        subst longer
        have allowed := before'.allowed
        have run := before'.run
        rw [State.run_append, before.run, Option.bind_some, State.run, stepped,
          Option.bind_some] at run
        refine again (before.entered_before stepped (fun later member => ?_) ?_ run)
        · exact allowed later (List.mem_append_right _ (List.mem_cons_of_mem _ member))
        · exact allowed _ (List.mem_append_right _ List.mem_cons_self)
  have same : s₁ = s₂ := by
    rcases List.append_eq_append_iff.mp split with ⟨mid, longer, tail⟩ | ⟨mid, longer, tail⟩
    · exact later before₁ stepped₁ before₂ (by simp [stepped₂]) longer tail
    · exact (later before₂ stepped₂ before₁ (by simp [stepped₁]) longer tail).symm
  subst same
  rw [stepped₁] at stepped₂
  cases stepped₂
  rw [called₁] at called₂
  cases called₂
  rw [waits₁] at waits₂
  cases waits₂
  rfl

end PlaceGateway.Fetch
