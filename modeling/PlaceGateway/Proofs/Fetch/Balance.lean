import PlaceGateway.Proofs.Fetch.Rechecks
import PlaceGateway.Proofs.Series
/-! The metrics of a cache balance: every fetch that passes the check of its context is a hit or a miss, and every
miss spawns a loader, joins an execution or is refused. -/

namespace PlaceGateway.Fetch

open Flight (CallerId Outcome)

def State.tallied (kind : State → Event → Bool) (s : State) : List Event → Nat
  | [] => 0
  | event :: rest => (kind s event).toNat + (s.step event).elim 0 fun s' => s'.tallied kind rest

namespace Event

def meetsContext (s : State) (c : CallerId) (verdict : Option CallError → Bool) : Bool :=
  (s.callers.get? c).any fun caller => verdict (caller.context.check s.flight.tokens s.now)

def passes (s : State) : Event → Bool
  | check c => meetsContext s c Option.isNone
  | _ => false

def isRefused (s : State) : Event → Bool
  | enter c => meetsContext s c Option.isSome
  | _ => false

def leaves (phase : CallerPhase) (s : State) : Event → Bool
  | drop c => (s.callers.get? c).any fun caller => caller.phase = phase
  | _ => false

def failsRead : Event → Bool
  | lookup _ .failed | recheck _ .failed => true
  | _ => false

def failsWrite : Event → Bool
  | write _ .failed => true
  | _ => false

def isQuiet : Event → Bool
  | check _ | lookup .. | enter _ | recheck .. | write .. | drop _ => false
  | _ => true

end Event

namespace State

def inPhase (s : State) (phase : CallerPhase) : Nat := s.callers.count fun caller => caller.phase = phase

structure Books where
  hits : Nat
  misses : Nat
  readErrors : Nat
  writeErrors : Nat
  spawned : Nat
  shared : Nat
  looking : Nat
  entering : Nat
  left : Nat

def books (s : State) : Books where
  hits := s.counters.hits
  misses := s.counters.misses
  readErrors := s.counters.readErrors
  writeErrors := s.counters.writeErrors
  spawned := s.loaders.size
  shared := s.flight.group.shared
  looking := s.inPhase .checked
  entering := s.inPhase .missed
  left := s.inPhase .dropped

/-- What a step adds to the books. -/
structure Accounts (s : State) (event : Event) (b : Books) : Prop where
  looked : b.hits + b.misses + b.looking + (event.leaves .checked s).toNat =
    s.books.hits + s.books.misses + s.books.looking + (event.passes s).toNat
  entered : b.misses + s.books.spawned + s.books.shared + s.books.entering =
    s.books.misses + b.spawned + b.shared + b.entering + (event.isRefused s).toNat + (event.leaves .missed s).toNat
  left : b.left = s.books.left + (event.leaves .arrived s).toNat + (event.leaves .checked s).toNat +
    (event.leaves .missed s).toNat
  reads : b.readErrors = s.books.readErrors + event.failsRead.toNat
  writes : b.writeErrors = s.books.writeErrors + event.failsWrite.toNat

variable {s s' : State} {c e : CallerId} {event : Event}

theorem inPhase_set {caller : Caller} (present : s.callers.get? c = some caller) (next phase : CallerPhase) :
    (s.callers.set c { caller with phase := next }).count (fun caller => decide (caller.phase = phase)) +
      (decide (caller.phase = phase)).toNat = s.inPhase phase + (decide (next = phase)).toNat := by
  have counted := Table.count_set (fun caller => decide (caller.phase = phase)) s.callers c
    { caller with phase := next }
  rw [present] at counted
  exact counted

theorem setLoader_books {loader : Loader} (present : s.loaders.get? e = some loader) (phase : LoaderPhase) :
    (s.setLoader e loader phase).books = s.books := by
  simp only [books, setLoader, Table.size_set_of_some present, inPhase]

theorem conclude?_books {loader : Loader} {o : Outcome Payload} (present : s.loaders.get? e = some loader)
    (stepped : s.conclude? e loader o = some s') : s'.books = s.books := by
  rcases Option.map_eq_some_iff.mp stepped with ⟨group, finished, rfl⟩
  have shared : group.shared = s.flight.group.shared := by
    rw [Flight.Group.finish?] at finished
    split at finished
    · cases finished
      rfl
    · cases finished
  simp only [books, setLoader, Table.size_set_of_some present, inPhase, shared]

theorem find_books (s : State) (key : String) (kind : PayloadKind) (read : Read) :
    (s.find key kind read).1.books =
      { s.books with readErrors := s.books.readErrors + (decide (read = .failed)).toNat } := by
  cases read <;> rfl

theorem Accounts.quiet {b : Books} (quiet : event.isQuiet = true) (same : b = s.books) : s.Accounts event b := by
  subst same
  cases event with
  | check | lookup | enter | recheck | write | drop => cases quiet
  | _ => exact ⟨rfl, rfl, rfl, rfl, rfl⟩

theorem arrive?_books {key : String} {kind : PayloadKind} {context : CallContext}
    (stepped : s.arrive? c key kind context = some s') : s'.books = s.books := by
  rcases arrive?_iff.mp stepped with ⟨new, _, rfl⟩
  have absent : s.callers.get? c = none := Table.contains_eq_false_iff.mp new
  have counted (phase : CallerPhase) (later : decide (.arrived = phase) = false) :
      (s.callers.set c ⟨key, kind, context, .arrived⟩).count (fun caller => decide (caller.phase = phase)) =
        s.callers.count fun caller => decide (caller.phase = phase) := by
    have counted := Table.count_set (fun caller => decide (caller.phase = phase)) s.callers c
      ⟨key, kind, context, .arrived⟩
    rw [absent] at counted
    simpa [later] using counted
  simp only [books, inPhase, counted .checked rfl, counted .missed rfl, counted .dropped rfl]

theorem books_setCaller {caller : Caller} (present : s.callers.get? c = some caller) (next : CallerPhase) :
    ∃ looking entering left, (s.setCaller c caller next).books = { s.books with looking, entering, left } ∧
      looking + (decide (caller.phase = .checked)).toNat = s.books.looking + (decide (next = .checked)).toNat ∧
      entering + (decide (caller.phase = .missed)).toNat = s.books.entering + (decide (next = .missed)).toNat ∧
      left + (decide (caller.phase = .dropped)).toNat = s.books.left + (decide (next = .dropped)).toNat :=
  ⟨_, _, _, rfl, inPhase_set present next .checked, inPhase_set present next .missed, inPhase_set present next .dropped⟩

theorem check?_accounts (stepped : s.check? c = some s') : s.Accounts (.check c) s'.books := by
  rcases check?_iff.mp stepped with ⟨caller, present, arrived, rfl⟩
  have passes : Event.passes s (.check c) = (caller.context.check s.flight.tokens s.now).isNone := by
    simp [Event.passes, Event.meetsContext, present]
  rcases books_setCaller present (.ofCheck (caller.context.check s.flight.tokens s.now)) with
    ⟨looking, entering, left, same, looked, entered, gone⟩
  rw [arrived] at looked entered gone
  rw [same]
  cases done : caller.context.check s.flight.tokens s.now
  all_goals
    rw [done] at passes looked entered gone
    simp only [CallerPhase.ofCheck, reduceCtorEq, decide_true, decide_false, Bool.toNat_true, Bool.toNat_false,
      Nat.add_zero] at looked entered gone
    refine ⟨?_, ?_, gone, rfl, rfl⟩
    · rw [looked, passes]
      rfl
    · rw [entered]
      rfl

theorem end?_books {loader : Loader} {key : String} {outcome : LoadOutcome} (present : s.loaders.get? e = some loader)
    (ended : s.end? e loader key outcome = some s') : s'.books = s.books := by
  cases outcome with
  | loaded p =>
      rw [end?] at ended
      split at ended
      · cases ended
      split at ended
      · exact conclude?_books present ended
      · cases ended
        exact setLoader_books present _
  | failed err => exact conclude?_books present ended
  | panicked message => exact conclude?_books present ended

theorem find_callers (s : State) (key : String) (kind : PayloadKind) (read : Read) :
    (s.find key kind read).1.callers = s.callers := by
  cases read <;> rfl

theorem failsRead_lookup (c : CallerId) (read : Read) :
    (Event.lookup c read).failsRead = decide (read = .failed) := by
  cases read <;> rfl

theorem lookup?_accounts {read : Read} (stepped : s.lookup? c read = some s') :
    s.Accounts (.lookup c read) s'.books := by
  rcases lookup?_iff.mp stepped with ⟨caller, present, checked, rfl⟩
  have first := find_books s caller.key caller.kind read
  rw [← find_callers s caller.key caller.kind read] at present
  rw [← failsRead_lookup c read] at first
  generalize (s.find caller.key caller.kind read).1 = s₁ at *
  cases (s.find caller.key caller.kind read).2 with
  | some p =>
      rcases books_setCaller present (.returned (.ok p)) with ⟨looking, entering, left, same, looked, entered, gone⟩
      have after : (s₁.answer c caller (some p)).books =
          { (s₁.setCaller c caller (.returned (.ok p))).books with hits := s₁.books.hits + 1 } := rfl
      rw [checked, first] at looked entered gone
      rw [after, same, first]
      have looked : looking + 1 = s.books.looking := looked
      have entered : entering = s.books.entering := entered
      refine ⟨?_, ?_, gone, rfl, rfl⟩
      · change s.books.hits + 1 + s.books.misses + looking = s.books.hits + s.books.misses + s.books.looking
        omega
      · rw [entered]
        rfl
  | none =>
      rcases books_setCaller present .missed with ⟨looking, entering, left, same, looked, entered, gone⟩
      have after : (s₁.answer c caller none).books =
          { (s₁.setCaller c caller .missed).books with misses := s₁.books.misses + 1 } := rfl
      rw [checked, first] at looked entered gone
      rw [after, same, first]
      have looked : looking + 1 = s.books.looking := looked
      have entered : entering = s.books.entering + 1 := entered
      refine ⟨?_, ?_, gone, rfl, rfl⟩
      · change s.books.hits + (s.books.misses + 1) + looking = s.books.hits + s.books.misses + s.books.looking
        omega
      · change s.books.misses + 1 + s.books.spawned + s.books.shared + s.books.entering =
          s.books.misses + s.books.spawned + s.books.shared + entering
        omega

theorem attach_loaders (s : State) (c : CallerId) (caller : Caller) (flight : Flight.State Payload) :
    (s.attach c caller flight).loaders = if (flight.group.executions.get? c).isSome then
      s.loaders.set c ⟨caller.kind, .spawned⟩ else s.loaders := rfl

theorem attach_counts {caller : Caller} {flight : Flight.State Payload}
    (unused : s.flight.group.executions.get? c = none) (unloaded : s.loaders.get? c = none)
    (called : s.flight.call? c caller.key caller.context = some flight) :
    (s.attach c caller flight).loaders.size + flight.group.shared +
      (caller.context.check s.flight.tokens s.flight.now).isSome.toNat =
        s.loaders.size + s.flight.group.shared + 1 := by
  rcases (Flight.State.call?_spec called).2 with ⟨err, done, made⟩ | ⟨going, ⟨e, _, made⟩ | ⟨_, made⟩⟩
  · have none_ : flight.group.executions.get? c = none := by rwa [made]
    rw [attach_loaders, none_, done, made]
    rfl
  · have none_ : flight.group.executions.get? c = none := by rwa [made]
    rw [attach_loaders, none_, going, made]
    rfl
  · have some_ : flight.group.executions.get? c = some ⟨caller.key, .running⟩ := by simp [made]
    rw [attach_loaders, some_, Option.isSome_some, if_pos rfl, Table.size_set_of_none unloaded, going, made]
    change s.loaders.size + 1 + s.flight.group.shared + 0 = s.loaders.size + s.flight.group.shared + 1
    omega

theorem enter?_accounts (fresh : ∀ c, s.flight.calls.get? c = none → s.flight.group.executions.get? c = none)
    (unloaded : ∀ c, s.flight.group.executions.get? c = none → s.loaders.get? c = none)
    (stepped : s.enter? c = some s') : s.Accounts (.enter c) s'.books := by
  rcases enter?_iff.mp stepped with ⟨caller, flight, present, missed, called, rfl⟩
  have unused := fresh c (Flight.State.call?_spec called).1
  -- The miss goes to one of three: the loaders, the callers that joined, or those that were refused.
  have counts := attach_counts unused (unloaded c unused) called
  have refused : Event.isRefused s (.enter c) = (caller.context.check s.flight.tokens s.flight.now).isSome := by
    simp [Event.isRefused, Event.meetsContext, present, State.now]
  rcases books_setCaller present .flying with ⟨looking, entering, left, same, looked, entered, gone⟩
  have after : (s.attach c caller flight).books = { (s.setCaller c caller .flying).books with
      spawned := (s.attach c caller flight).loaders.size, shared := flight.group.shared } := rfl
  rw [missed] at looked entered gone
  rw [after, same]
  have looked : looking = s.books.looking := looked
  have entered : entering + 1 = s.books.entering := entered
  refine ⟨?_, ?_, gone, rfl, rfl⟩
  · rw [looked]
    rfl
  · rw [refused, ← entered]
    change s.books.misses + s.loaders.size + s.flight.group.shared + (entering + 1) = s.books.misses +
      (s.attach c caller flight).loaders.size + flight.group.shared + entering +
        (caller.context.check s.flight.tokens s.flight.now).isSome.toNat
    omega

theorem recheck?_accounts {read : Read} (stepped : s.recheck? e read = some s') :
    s.Accounts (.recheck e read) s'.books := by
  rcases recheck?_iff.mp stepped with ⟨loader, execution, present, _, _, reread⟩
  have first := find_books s execution.key loader.kind read
  have loaders : (s.find execution.key loader.kind read).1.loaders = s.loaders := by cases read <;> rfl
  rw [← loaders] at present
  have same : s'.books = (s.find execution.key loader.kind read).1.books := by
    cases found : (s.find execution.key loader.kind read).2 with
    | some p =>
        rw [found] at reread
        exact conclude?_books present reread
    | none =>
        rw [found] at reread
        cases reread
        exact setLoader_books present .missed
  rw [same, first]
  have fails : (Event.recheck e read).failsRead = decide (read = .failed) := by cases read <;> rfl
  refine ⟨rfl, rfl, rfl, ?_, rfl⟩
  rw [fails]

theorem write?_accounts {write : Write} (stepped : s.write? e write = some s') :
    s.Accounts (.write e write) s'.books := by
  rcases write?_iff.mp stepped with ⟨loader, execution, p, present, _, _, kept⟩
  cases write with
  | failed =>
      rw [conclude?_books (s := { s with counters := { s.counters with writeErrors := s.counters.writeErrors + 1 } })
        present kept]
      exact ⟨rfl, rfl, rfl, rfl, rfl⟩
  | accepted =>
      rw [conclude?_books present kept]
      exact ⟨rfl, rfl, rfl, rfl, rfl⟩
  | kept =>
      rw [keep?] at kept
      split at kept
      · rename_i store _
        rw [conclude?_books (s := { s with store }) present kept]
        exact ⟨rfl, rfl, rfl, rfl, rfl⟩
      · rw [conclude?_books present kept]
        exact ⟨rfl, rfl, rfl, rfl, rfl⟩

theorem drop?_accounts (stepped : s.drop? c = some s') : s.Accounts (.drop c) s'.books := by
  rcases drop?_iff.mp stepped with ⟨caller, present, fate⟩
  have leaves (phase : CallerPhase) : Event.leaves phase s (.drop c) = decide (caller.phase = phase) := by
    simp [Event.leaves, present]
  rcases fate with ⟨flying, flight, dropped, rfl⟩ | ⟨early, rfl⟩
  · rcases Flight.State.drop?_spec dropped with ⟨call, e, _, _, rfl⟩
    rw [flying] at leaves
    refine ⟨?_, ?_, ?_, rfl, rfl⟩
    · rw [leaves]
      rfl
    · rw [leaves]
      rfl
    · rw [leaves, leaves, leaves]
      rfl
  · rcases books_setCaller present .dropped with ⟨looking, entering, left, same, looked, entered, gone⟩
    have phases : caller.phase = .arrived ∨ caller.phase = .checked ∨ caller.phase = .missed := by
      cases is : caller.phase with
      | arrived => exact .inl rfl
      | checked => exact .inr (.inl rfl)
      | missed => exact .inr (.inr rfl)
      | flying | returned | dropped =>
        rw [is] at early
        cases early
    rw [same]
    rcases phases with is | is | is
    all_goals
      rw [is] at leaves looked entered gone
      refine ⟨?_, ?_, ?_, rfl, rfl⟩
      · rw [leaves]
        exact congrArg (s.books.hits + s.books.misses + ·) looked
      · rw [leaves]
        exact congrArg (s.books.misses + s.books.spawned + s.books.shared + ·) entered.symm
      · rw [leaves, leaves, leaves]
        exact gone

theorem release?_shared {g g' : Flight.Group Payload} (released : g.release? e = some g') : g'.shared = g.shared := by
  rw [Flight.Group.release?] at released
  split at released
  · cases released
    rfl
  · cases released

theorem step_accounts (fresh : ∀ c, s.flight.calls.get? c = none → s.flight.group.executions.get? c = none)
    (unloaded : ∀ c, s.flight.group.executions.get? c = none → s.loaders.get? c = none)
    (stepped : s.step event = some s') : s.Accounts event s'.books := by
  cases event with
  | token id parent =>
      rcases Option.map_eq_some_iff.mp stepped with ⟨flight, made, rfl⟩
      rcases Flight.State.token?_spec made with ⟨token, _, rfl⟩
      exact .quiet rfl rfl
  | cancel id =>
      cases stepped
      exact .quiet rfl rfl
  | advance d =>
      rcases Option.map_eq_some_iff.mp stepped with ⟨now, _, rfl⟩
      exact .quiet rfl rfl
  | purge =>
      cases stepped
      exact .quiet rfl rfl
  | arrive c key kind context => exact .quiet rfl (arrive?_books stepped)
  | check c => exact check?_accounts stepped
  | lookup c read => exact lookup?_accounts stepped
  | enter c => exact enter?_accounts fresh unloaded stepped
  | recheck e read => exact recheck?_accounts stepped
  | start e =>
      rcases start?_iff.mp stepped with ⟨loader, present, _, rfl⟩
      exact .quiet rfl (setLoader_books present .loading)
  | finish e outcome =>
      rcases finish?_iff.mp stepped with ⟨loader, execution, present, _, _, ended⟩
      exact .quiet rfl (end?_books present ended)
  | write e w => exact write?_accounts stepped
  | release e =>
      rcases Option.map_eq_some_iff.mp stepped with ⟨group, released, rfl⟩
      exact .quiet rfl (by simp only [books, inPhase, release?_shared released])
  | receive c =>
      rcases Option.map_eq_some_iff.mp stepped with ⟨flight, received, rfl⟩
      rcases Flight.State.receive?_spec received with ⟨_, _, _, _, _, _, _, rfl⟩
      exact .quiet rfl rfl
  | giveUp c choice =>
      rcases Option.map_eq_some_iff.mp stepped with ⟨flight, given, rfl⟩
      rcases Flight.State.giveUp?_spec given with ⟨_, _, _, _, _, _, rfl⟩
      exact .quiet rfl rfl
  | drop c => exact drop?_accounts stepped

theorem tallied_concat {kind : State → Event → Bool} {trace : List Event} (run : s.run trace = some s')
    (event : Event) : s.tallied kind (trace ++ [event]) = s.tallied kind trace + (kind s' event).toNat := by
  induction trace generalizing s with
  | nil =>
      cases run
      rw [List.nil_append, tallied, tallied]
      cases s'.step event <;> simp [tallied]
  | cons first trace ih =>
      rw [State.run, Option.bind_eq_some_iff] at run
      rcases run with ⟨next, stepped, run⟩
      rw [List.cons_append, tallied, tallied, stepped, Option.elim_some, Option.elim_some, ih run, Nat.add_assoc]

end State

variable {ttl : Option Duration} {Allowed : Event → Prop} {trace : List Event} {s s' : State}

def passed (ttl : Option Duration) (trace : List Event) : Nat := (State.initial ttl).tallied Event.passes trace

def refused (ttl : Option Duration) (trace : List Event) : Nat := (State.initial ttl).tallied Event.isRefused trace

def lost (ttl : Option Duration) (trace : List Event) (phase : CallerPhase) : Nat :=
  (State.initial ttl).tallied (Event.leaves phase) trace

/-- The books of a run balance at every moment, fetches that are still on their way included. -/
structure Balanced (ttl : Option Duration) (trace : List Event) (s : State) : Prop where
  looked : s.counters.hits + s.counters.misses + s.inPhase .checked + lost ttl trace .checked = passed ttl trace
  entered : s.counters.misses = s.loaders.size + s.flight.group.shared + refused ttl trace + s.inPhase .missed +
    lost ttl trace .missed
  left : s.inPhase .dropped = lost ttl trace .arrived + lost ttl trace .checked + lost ttl trace .missed
  reads : s.counters.readErrors = trace.countP Event.failsRead
  writes : s.counters.writeErrors = trace.countP Event.failsWrite

theorem Balanced.step {event : Event} (balanced : Balanced ttl trace s) (run : (State.initial ttl).run trace = some s)
    (accounts : s.Accounts event s'.books) : Balanced ttl (trace ++ [event]) s' := by
  have grown (kind : State → Event → Bool) : (State.initial ttl).tallied kind (trace ++ [event]) =
      (State.initial ttl).tallied kind trace + (kind s event).toNat := State.tallied_concat run event
  constructor
  case looked =>
    rw [lost, passed, grown, grown]
    have balance := balanced.looked
    have added := accounts.looked
    simp only [lost, passed] at balance
    simp only [State.books] at added
    omega
  case entered =>
    rw [lost, refused, grown, grown]
    have balance := balanced.entered
    have added := accounts.entered
    simp only [lost, refused] at balance
    simp only [State.books] at added
    omega
  case left =>
    rw [lost, lost, lost, grown, grown, grown]
    have balance := balanced.left
    have added := accounts.left
    simp only [lost] at balance
    simp only [State.books] at added
    omega
  case reads =>
    rw [List.countP_append, List.countP_singleton, ← balanced.reads]
    have added := accounts.reads
    cases fails : event.failsRead <;> simpa [State.books, fails] using added
  case writes =>
    rw [List.countP_append, List.countP_singleton, ← balanced.writes]
    have added := accounts.writes
    cases fails : event.failsWrite <;> simpa [State.books, fails] using added

theorem Reached.balanced (reached : Reached ttl Allowed trace s) : Balanced ttl trace s := by
  induction reached with
  | initial => exact ⟨rfl, rfl, rfl, rfl, rfl⟩
  | @step trace s s' event before _ stepped ih =>
      rcases before.isSound with ⟨loads, calls⟩
      -- A loader is counted as spawned only if its name is new, which the books do not tell.
      exact ih.step before.run (State.step_accounts calls.fresh (fun _ => loads.unattended) stepped)

/-- No fetch is on its way to the flight any more: each has returned, has entered, or was dropped. -/
def State.IsSettled (s : State) : Prop := ∀ entry ∈ s.callers.entries, entry.2.phase.isEarly = false

instance (s : State) : Decidable s.IsSettled :=
  inferInstanceAs (Decidable (∀ entry ∈ s.callers.entries, entry.2.phase.isEarly = false))

theorem State.IsSettled.inPhase_eq_zero (settled : s.IsSettled) {phase : CallerPhase} (early : phase.isEarly = true) :
    s.inPhase phase = 0 := by
  apply List.countP_eq_zero.mpr
  intro entry member same
  rw [← of_decide_eq_true same, settled entry member] at early
  cases early

def State.metric (s : State) (name : String) : Int := Series.value (Series.ofFetches s) name

/-- Once no fetch is on its way, those that passed the check of their context are hits and misses, and the misses are
loaders spawned, callers that joined, and callers that were done on entering, but for the fetches that were dropped in
between. The errors of the store are the reads and writes that failed. Nothing is counted for a loader that is answered
by its own look at the cache, and it neither calls its fetch function nor writes. -/
theorem fetches_balance (run : (State.initial ttl).run trace = some s) :
    (s.IsSettled →
      s.metric Series.hits + s.metric Series.misses + lost ttl trace .checked = passed ttl trace ∧
      s.metric Series.misses =
        s.loaders.size + s.metric Series.shared + refused ttl trace + lost ttl trace .missed) ∧
    (s.IsSettled → s.inPhase .dropped = 0 →
      s.metric Series.hits + s.metric Series.misses = passed ttl trace ∧
      s.metric Series.misses = s.loaders.size + s.metric Series.shared + refused ttl trace) ∧
    s.metric Series.readErrors = trace.countP Event.failsRead ∧
    s.metric Series.writeErrors = trace.countP Event.failsWrite ∧
    ∀ e read key p s₀ s₁, Happened ttl trace s₀ (.recheck e read) → s₀.step (.recheck e read) = some s₁ →
      s₁.Concludes e key (.ok p) → s₁.counters = s₀.counters ∧ ∀ event ∈ trace, event.isWork e = false := by
  have reached : Reached ttl (fun _ => True) trace s := reached_of_run (fun _ _ => trivial) run
  have balanced := reached.balanced
  have settles (settled : s.IsSettled) :
      s.counters.hits + s.counters.misses + lost ttl trace .checked = passed ttl trace ∧
        s.counters.misses = s.loaders.size + s.flight.group.shared + refused ttl trace + lost ttl trace .missed := by
    have looked := balanced.looked
    have entered := balanced.entered
    rw [settled.inPhase_eq_zero rfl] at looked entered
    exact ⟨looked, entered⟩
  have metric {name : String} {n : Nat} (counted : (name, n) ∈ Series.fetchCounts s) : s.metric name = n :=
    Series.value_ofFetches s counted
  have hits : s.metric Series.hits = s.counters.hits := metric (by simp [Series.fetchCounts])
  have misses : s.metric Series.misses = s.counters.misses := metric (by simp [Series.fetchCounts])
  have shared : s.metric Series.shared = s.flight.group.shared := metric (by simp [Series.fetchCounts])
  have reads : s.metric Series.readErrors = s.counters.readErrors := metric (by simp [Series.fetchCounts])
  have writes : s.metric Series.writeErrors = s.counters.writeErrors := metric (by simp [Series.fetchCounts])
  rw [hits, misses, shared, reads, writes, balanced.reads, balanced.writes]
  refine ⟨fun settled => ?_, fun settled kept => ?_, rfl, rfl, ?_⟩
  · have totals := settles settled
    omega
  · have totals := settles settled
    have left := balanced.left
    omega
  · intro e read key p s₀ s₁ happened stepped answered
    exact reached.idle_of_recheck happened stepped answered

def rush : List Event :=
  [.token "t" none, .token "u" none, .arrive "a" "k" .search ⟨"t", none⟩, .arrive "b" "k" .search ⟨"t", none⟩,
    .arrive "c" "k" .search ⟨"u", none⟩, .arrive "e" "k" .search ⟨"t", none⟩, .check "a", .check "b", .check "c",
    .check "e", .lookup "a" .failed, .lookup "b" .actual, .lookup "c" .actual, .lookup "e" .actual, .enter "a",
    .enter "b", .cancel "u", .enter "c", .recheck "a" .actual, .start "a", .finish "a" (.loaded (.search ⟨[]⟩)),
    .write "a" .kept, .release "a", .receive "a", .receive "b", .enter "e", .recheck "e" .actual, .release "e",
    .receive "e", .arrive "d" "k" .search ⟨"t", none⟩, .check "d", .lookup "d" .actual]

theorem fetches_balance_in_rush : ∃ s, (State.initial none).run rush = some s ∧ s.IsSettled ∧
    s.metric Series.hits = 1 ∧ s.metric Series.misses = 4 ∧ s.metric Series.shared = 1 ∧
    s.metric Series.readErrors = 1 ∧ s.metric Series.writeErrors = 0 ∧ s.loaders.size = 2 ∧
    ∀ event ∈ rush, event.isWork "e" = false := by
  let s := ((State.initial none).run rush).get (by decide +kernel)
  have run : (State.initial none).run rush = some s := (Option.some_get _).symm
  have settled : s.IsSettled := by decide +kernel
  rcases fetches_balance run with ⟨_, balance, reads, writes, idle⟩
  rcases balance settled (by decide +kernel) with ⟨looked, entered⟩
  have passes : passed none rush = 5 := by decide +kernel
  have refuses : refused none rush = 1 := by decide +kernel
  have spawned : s.loaders.size = 2 := by decide +kernel
  have joined : s.metric Series.shared = 1 := by decide +kernel
  rw [spawned, joined, refuses] at entered
  rw [passes, entered] at looked
  let s₀ := ((State.initial none).run (rush.take 26)).get (by decide +kernel)
  let s₁ := (s₀.step (.recheck "e" .actual)).get (by decide +kernel)
  have happened : Happened none rush s₀ (.recheck "e" .actual) :=
    ⟨rush.take 26, rush.drop 27, rfl, (Option.some_get _).symm⟩
  have answered : s₁.Concludes "e" "k" (.ok (.search ⟨[]⟩)) := ⟨.ending (.ok (.search ⟨[]⟩)), by decide +kernel, rfl⟩
  have spared := (idle "e" .actual "k" (.search ⟨[]⟩) s₀ s₁ happened (Option.some_get _).symm answered).2
  exact ⟨s, run, settled, by omega, entered, joined, reads, writes, spawned, spared⟩

end PlaceGateway.Fetch
