import PlaceGateway.Proofs.Fetch.Calls
/-! Runs of a cache from its start, and what has happened in them. -/

namespace PlaceGateway.Fetch

open Flight (CallerId Outcome)

namespace State

variable {s s' : State}

theorem run_append (s : State) (front rest : List Event) :
    s.run (front ++ rest) = (s.run front).bind (·.run rest) := by
  induction front generalizing s with
  | nil => rfl
  | cons event front ih =>
      rw [List.cons_append, run, run, Option.bind_assoc]
      exact Option.bind_congr fun s _ => ih s

theorem run_concat (s : State) (trace : List Event) (event : Event) :
    s.run (trace ++ [event]) = (s.run trace).bind (·.step event) := by
  rw [run_append]
  refine Option.bind_congr fun s _ => ?_
  rw [run]
  cases s.step event <;> rfl

def HasKey (s : State) (e : CallerId) (key : String) : Prop :=
  ∃ phase, s.flight.group.executions.get? e = some ⟨key, phase⟩

theorem HasKey.running {Asks : String → PayloadKind → Prop} {e key : String} {loader : Loader}
    (named : s.HasKey e key) (sound : s.loads.Sound Asks) (present : s.loaders.get? e = some loader)
    (active : loader.phase.isDone = false) :
    s.flight.group.executions.get? e = some ⟨key, .running⟩ := by
  obtain ⟨phase, found⟩ := named
  have runs := sound.running_at present active found
  rwa [runs] at found

theorem ok_of_ofKind {kind : PayloadKind} {o : Outcome Payload} {p : Payload}
    (typed : ofKind kind o = .ok p) : o = .ok p := by
  cases o with
  | ok own =>
      rw [ofKind] at typed
      split at typed
      · exact typed
      · cases typed
  | error err => cases typed

/-- The loader of the execution has ended, and the execution with this outcome. -/
def Concludes (s : State) (e : CallerId) (key : String) (o : Outcome Payload) : Prop :=
  ∃ phase, s.flight.group.executions.get? e = some ⟨key, phase⟩ ∧ phase.outcome? = some o

theorem Concludes.unique {e key key' : String} {o o' : Outcome Payload} (one : s.Concludes e key o)
    (other : s.Concludes e key' o') : o = o' := by
  obtain ⟨phase, found, told⟩ := one
  obtain ⟨phase', found', told'⟩ := other
  rw [found] at found'
  cases found'
  rw [told] at told'
  cases told'
  rfl

end State

def Event.Meets (reads : Read → Prop) (writes : Write → Prop) : Event → Prop
  | lookup _ read | recheck _ read => reads read
  | write _ w => writes w
  | _ => True

theorem Event.isAsked_any (event : Event) : event.IsAsked (fun _ _ => True) := by
  cases event <;> trivial

/-- The states that runs reach whose events are all allowed, each with its run. -/
inductive Reached (ttl : Option Duration) (Allowed : Event → Prop) : List Event → State → Prop where
  | initial : Reached ttl Allowed [] (.initial ttl)
  | step {trace : List Event} {s s' : State} {event : Event} (before : Reached ttl Allowed trace s)
      (allowed : Allowed event) (stepped : s.step event = some s') :
      Reached ttl Allowed (trace ++ [event]) s'

/-- The event came in the run when the cache was in the state. -/
def Happened (ttl : Option Duration) (trace : List Event) (s : State) (event : Event) : Prop :=
  ∃ front rest, trace = front ++ event :: rest ∧ (State.initial ttl).run front = some s

variable {ttl : Option Duration} {Allowed : Event → Prop} {Asks : String → PayloadKind → Prop}
  {trace : List Event} {s s' : State} {event : Event}

theorem Reached.run (reached : Reached ttl Allowed trace s) :
    (State.initial ttl).run trace = some s := by
  induction reached with
  | initial => rfl
  | step _ _ stepped ih => rw [State.run_concat, ih, Option.bind_some, stepped]

theorem Reached.extend (reached : Reached ttl Allowed trace s) {more : List Event}
    (allowed : ∀ event ∈ more, Allowed event) (run : s.run more = some s') :
    Reached ttl Allowed (trace ++ more) s' := by
  induction more generalizing trace s with
  | nil =>
      cases run
      rwa [List.append_nil]
  | cons event more ih =>
      rw [State.run, Option.bind_eq_some_iff] at run
      obtain ⟨next, stepped, run⟩ := run
      rw [List.append_cons]
      exact ih (reached.step (allowed event List.mem_cons_self) stepped)
        (fun later member => allowed later (List.mem_cons_of_mem event member)) run

theorem reached_of_run (allowed : ∀ event ∈ trace, Allowed event)
    (run : (State.initial ttl).run trace = some s) : Reached ttl Allowed trace s :=
  Reached.extend .initial allowed run

theorem Reached.allowed (reached : Reached ttl Allowed trace s) : ∀ event ∈ trace, Allowed event := by
  induction reached with
  | initial => exact fun _ member => absurd member List.not_mem_nil
  | step _ allowed _ ih =>
      intro event member
      rcases List.mem_append.mp member with early | last
      · exact ih event early
      · rw [List.mem_singleton.mp last]
        exact allowed

theorem Reached.mono {Weaker : Event → Prop} (reached : Reached ttl Allowed trace s)
    (weaker : ∀ event, Allowed event → Weaker event) : Reached ttl Weaker trace s :=
  reached_of_run (fun event member => weaker event (reached.allowed event member)) reached.run

theorem Reached.sound (reached : Reached ttl Allowed trace s)
    (asks : ∀ event, Allowed event → event.IsAsked Asks) :
    s.loads.Sound Asks ∧ s.calls.Sound Asks s.loads := by
  induction reached with
  | initial => exact ⟨Loads.sound_empty _ ttl, Calls.sound_empty _ ttl _⟩
  | step _ allowed stepped ih =>
      obtain ⟨loads, calls⟩ := ih
      have step := State.step_loads loads calls.fresh calls.asked stepped
      exact ⟨step.sound loads,
        (State.step_calls loads stepped).sound step (asks _ allowed) calls⟩

theorem Reached.steps (reached : Reached ttl Allowed trace s)
    (asks : ∀ event, Allowed event → event.IsAsked Asks) (stepped : s.step event = some s') :
    Loads.Step Asks s.loads event s'.loads ∧ Calls.Step s.loads s'.loads s.calls event s'.calls := by
  obtain ⟨loads, calls⟩ := reached.sound asks
  exact ⟨State.step_loads loads calls.fresh calls.asked stepped, State.step_calls loads stepped⟩

theorem Reached.isSound (reached : Reached ttl Allowed trace s) :
    s.loads.Sound (fun _ _ => True) ∧ s.calls.Sound (fun _ _ => True) s.loads :=
  reached.sound fun event _ => event.isAsked_any

theorem Reached.moves (reached : Reached ttl Allowed trace s) (stepped : s.step event = some s') :
    Loads.Step (fun _ _ => True) s.loads event s'.loads ∧
      Calls.Step s.loads s'.loads s.calls event s'.calls :=
  reached.steps (fun event _ => event.isAsked_any) stepped

theorem Reached.ttl_eq (reached : Reached ttl Allowed trace s) : s.ttl = ttl := by
  induction reached with
  | initial => rfl
  | step before _ stepped ih =>
      exact (before.moves stepped).1.ttl.trans ih

theorem Reached.preserves (Inv : State → Prop) (reached : Reached ttl Allowed trace s)
    {more : List Event} (allowed : ∀ event ∈ more, Allowed event) (run : s.run more = some s')
    (step : ∀ {trace s event s'}, Reached ttl Allowed trace s → Allowed event →
      s.step event = some s' → Inv s → Inv s')
    (holds : Inv s) : Inv s' := by
  induction more generalizing trace s with
  | nil =>
      cases run
      exact holds
  | cons event more ih =>
      rw [State.run, Option.bind_eq_some_iff] at run
      obtain ⟨next, stepped, run⟩ := run
      have own := allowed event List.mem_cons_self
      exact ih (reached.step own stepped)
        (fun later member => allowed later (List.mem_cons_of_mem event member)) run
        (step reached own stepped holds)

theorem Reached.hasKey (reached : Reached ttl Allowed trace s) {more : List Event}
    (allowed : ∀ event ∈ more, Allowed event) (run : s.run more = some s') {e key : String}
    (named : s.HasKey e key) : s'.HasKey e key := by
  refine reached.preserves (·.HasKey e key) allowed run ?_ named
  rintro _ s event s' before _ stepped ⟨phase, found⟩
  obtain ⟨phase', present, _⟩ :=
    (before.moves stepped).1.keeps found
  exact ⟨phase', present⟩

theorem Reached.concludes (reached : Reached ttl Allowed trace s) {more : List Event}
    (allowed : ∀ event ∈ more, Allowed event) (run : s.run more = some s') {e key : String}
    {o : Outcome Payload} (concludes : s.Concludes e key o) : s'.Concludes e key o := by
  refine reached.preserves (·.Concludes e key o) allowed run ?_ concludes
  rintro _ s event s' before _ stepped ⟨phase, found, told⟩
  obtain ⟨phase', present, becomes⟩ :=
    (before.moves stepped).1.keeps found
  exact ⟨phase', present, becomes.outcome? told⟩

theorem Reached.called (reached : Reached ttl Allowed trace s) {more : List Event}
    (allowed : ∀ event ∈ more, Allowed event) (run : s.run more = some s') {c : CallerId}
    (entered : ∃ call, s.flight.calls.get? c = some call) :
    ∃ call, s'.flight.calls.get? c = some call := by
  refine reached.preserves (fun s => ∃ call, s.flight.calls.get? c = some call) allowed run ?_ entered
  rintro _ s event s' before _ stepped ⟨call, present⟩
  exact (before.moves stepped).2.called present

theorem Happened.append (happened : Happened ttl trace s event) (more : List Event) :
    Happened ttl (trace ++ more) s event := by
  obtain ⟨front, rest, rfl, run⟩ := happened
  exact ⟨front, rest ++ more, by rw [List.append_assoc, List.cons_append], run⟩

theorem Reached.happened (reached : Reached ttl Allowed trace s) (event : Event) :
    Happened ttl (trace ++ [event]) s event := ⟨trace, [], rfl, reached.run⟩

theorem Happened.mem (happened : Happened ttl trace s event) : event ∈ trace := by
  obtain ⟨front, rest, rfl, _⟩ := happened
  exact List.mem_append_right front List.mem_cons_self

theorem Reached.since {s₀ : State} (reached : Reached ttl Allowed trace s)
    (happened : Happened ttl trace s₀ event) :
    ∃ front rest, trace = front ++ event :: rest ∧ Reached ttl Allowed front s₀ ∧
      s₀.run (event :: rest) = some s ∧ ∀ later ∈ event :: rest, Allowed later := by
  obtain ⟨front, rest, rfl, run⟩ := happened
  have allowed := reached.allowed
  have whole := reached.run
  rw [State.run_append, run, Option.bind_some] at whole
  exact ⟨front, rest, rfl,
    reached_of_run (fun early member => allowed early (List.mem_append_left _ member)) run, whole,
    fun later member => allowed later (List.mem_append_right _ member)⟩

end PlaceGateway.Fetch
