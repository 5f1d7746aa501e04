import PlaceGateway.Proofs.Fetch.Run
import PlaceGateway.Proofs.Place.RoundTrip
/-! Coalescing: under each key at most one fetch function is outstanding, and none is started while
what one of them got is stored. -/

namespace PlaceGateway.Fetch

open Flight (CallerId Execution Outcome Phase)

namespace Loads

/-- No loader of the key has found a miss. -/
def Rests (l : Loads) (key : String) : Prop :=
  ∀ e own, l.executions.get? e = some ⟨key, .running⟩ → l.loaders.get? e = some own →
    own.phase = .spawned

/-- Unless the deadline has come, a payload of the kind is stored until then, and loaders of the key
rest. -/
def Fresh (l : Loads) (key : String) (kind : PayloadKind) (deadline : Option Instant) : Prop :=
  (∃ t, deadline = some t ∧ t ≤ l.now) ∨
    l.Rests key ∧ ∃ value p, l.store.stored? key = some ⟨value, deadline⟩ ∧ value ≠ [] ∧
      Payload.decode? kind value = some p

variable {kindOf : String → PayloadKind} {l l' : Loads} {event : Event} {e key other : String}
  {kind : PayloadKind} {deadline : Option Instant}

theorem Rests.set (rests : l.Rests key) (phase : Phase Payload) (own : Loader)
    (new : other = key → phase = .running → own.phase = .spawned) :
    Rests { l with
      executions := l.executions.set e ⟨other, phase⟩
      loaders := l.loaders.set e own } key := by
  intro holder found running present
  by_cases same : holder = e
  · subst same
    simp only [Table.get?_set, if_true, Option.some.injEq, Execution.mk.injEq] at running present
    rw [← present]
    exact new running.1 running.2
  · simp only [Table.get?_set, if_neg same] at running present
    exact rests holder found running present

theorem Rests.advance (rests : l.Rests key) (running : l.executions.get? e = some ⟨other, .running⟩)
    (differs : other ≠ key) (own : Loader) :
    Rests { l with loaders := l.loaders.set e own } key := by
  have moved := rests.set (e := e) .running own (fun same _ => absurd same differs)
  rwa [Table.set_self _ _ _ running] at moved

theorem Rests.conclude (rests : l.Rests key) (e other : String) (kind : PayloadKind)
    (o : Outcome Payload) : (l.conclude e other kind o).Rests key :=
  rests.set (.ending o) ⟨kind, .done⟩ (fun _ running => by cases running)

theorem Rests.ne (rests : l.Rests key) {own : Loader} (present : l.loaders.get? e = some own)
    (running : l.executions.get? e = some ⟨other, .running⟩) (works : own.phase ≠ .spawned) :
    other ≠ key := by
  rintro rfl
  exact works (rests e own running present)

theorem payload?_of_entry {value : Bytes} {p : Payload} (stored : l.store.stored? key = some ⟨value, deadline⟩)
    (live : ∀ t, deadline = some t → l.now < t) (some_ : value ≠ [])
    (decodes : Payload.decode? kind value = some p) :
    Read.payload? l.store l.now key kind .actual = some p := by
  have unexpired : (MemoryEntry.mk value deadline).isExpired l.now = false := by
    cases deadline with
    | none => rfl
    | some t => simpa [MemoryEntry.isExpired] using live t rfl
  rw [Read.payload?, MemoryStore.get_snd, stored]
  simp [Option.filter_some, unexpired, ValueStore.found, some_, decodes]

theorem Step.fresh (step : Step (kindOf · = ·) l event l') (sound : l.Sound (kindOf · = ·))
    (faithful : event.Meets (· = .actual) (· = .kept)) (fresh : l.Fresh key (kindOf key) deadline) :
    l'.Fresh key (kindOf key) deadline := by
  -- An entry whose time is over stays so. Until then a recheck finds it, and no loader of its key gets to write
  -- another.
  by_cases past : ∃ t, deadline = some t ∧ t ≤ l.now
  · obtain ⟨t, due, reached⟩ := past
    exact .inl ⟨t, due, Nat.le_trans reached step.now_le⟩
  · obtain ⟨rests, value, p, stored, some_, decodes⟩ := fresh.resolve_left past
    have live (t : Instant) (due : deadline = some t) : l.now < t :=
      Nat.lt_of_not_le fun reached => past ⟨t, due, reached⟩
    have found : Read.payload? l.store l.now key (kindOf key) .actual = some p :=
      payload?_of_entry stored live some_ decodes
    have kept {store : MemoryStore} (drops : l.store.Drops l.now store) :
        store.stored? key = some ⟨value, deadline⟩ := by
      refine drops.keeps stored ?_
      cases deadline with
      | none => rfl
      | some t => simpa [MemoryEntry.isExpired] using live t rfl
    refine .inr ?_
    cases step with
    | quiet _ _ _ drops => exact ⟨rests, value, p, kept drops, some_, decodes⟩
    | spawn _ _ _ => exact ⟨rests.set .running _ (fun _ _ => rfl), value, p, stored, some_, decodes⟩
    | hit _ _ _ _ drops => exact ⟨rests.conclude _ _ _ _, value, p, kept drops, some_, decodes⟩
    | @miss _ _ other _ _ loader running missed _ drops =>
        have differs : other ≠ key := by
          rintro rfl
          rw [faithful, ← sound.asked loader running, found] at missed
          cases missed
        exact ⟨rests.advance running differs _, value, p, kept drops, some_, decodes⟩
    | start loader =>
        obtain ⟨other, running, _⟩ := sound.running loader rfl
        have differs := rests.ne loader running (by simp)
        exact ⟨rests.advance running differs _, value, p, stored, some_, decodes⟩
    | load loader running _ _ =>
        have differs := rests.ne loader running (by simp)
        exact ⟨rests.advance running differs _, value, p, stored, some_, decodes⟩
    | fail _ _ _ => exact ⟨rests.conclude _ _ _ _, value, p, stored, some_, decodes⟩
    | keep loader running written =>
        have differs := rests.ne loader running (by simp)
        refine ⟨rests.conclude _ _ _ _, value, p, ?_, some_, decodes⟩
        rw [← stored]
        exact (MemoryStore.stored?_of_set? written key).trans (if_neg differs.symm)
    | overflow _ _ _ => exact ⟨rests.conclude _ _ _ _, value, p, stored, some_, decodes⟩
    | pass _ _ _ => exact ⟨rests.conclude _ _ _ _, value, p, stored, some_, decodes⟩
    | release _ =>
        refine ⟨?_, value, p, stored, some_, decodes⟩
        intro holder own running present
        rcases Table.get?_set_cases running with ⟨_, is⟩ | ⟨_, before⟩
        · cases is
        · exact rests holder own before present

theorem Step.keeps_payload {Asks : String → PayloadKind → Prop} (step : Step Asks l (.write e .kept) l')
    {p : Payload} {store : MemoryStore} (loader : l.loaders.get? e = some ⟨kind, .writing p⟩)
    (running : l.executions.get? e = some ⟨key, .running⟩)
    (stored : l.store.set? l.now key p.encode (ValueStore.lifetime l.ttl) = some store) :
    l' = { l with store }.conclude e key kind (.ok p) := by
  cases step with
  | quiet other => cases other
  | keep loader' running' stored' =>
      cases loader.symm.trans loader'
      cases running.symm.trans running'
      cases stored.symm.trans stored'
      rfl
  | overflow loader' running' late =>
      cases loader.symm.trans loader'
      cases running.symm.trans running'
      cases stored.symm.trans late
  | pass _ _ unkept => exact absurd rfl unkept

theorem fresh_of_written (sound : l.Sound (kindOf · = ·)) {p : Payload} {store : MemoryStore}
    (loader : l.loaders.get? e = some ⟨kind, .writing p⟩)
    (running : l.executions.get? e = some ⟨key, .running⟩)
    (written : l.store.set? l.now key p.encode (ValueStore.lifetime l.ttl) = some store) :
    Fresh ({ l with store }.conclude e key kind (.ok p)) key (kindOf key)
      ((ValueStore.lifetime l.ttl).map fun d => l.now + d.nanos) := by
  obtain ⟨own, fits, _⟩ := sound.typed e kind p loader
  have decodes : Payload.decode? (kindOf key) p.encode = some p.unsignZeros :=
    Payload.decode?_encode (own.trans (sound.asked loader running).symm) fits
  refine .inr ⟨?_, p.encode, p.unsignZeros, ?_, Payload.encode_ne_nil p, decodes⟩
  · intro holder found active present
    exfalso
    rcases Table.get?_set_cases active with ⟨_, is⟩ | ⟨differs, before⟩
    · cases is
    · exact differs (sound.unique before rfl running rfl)
  · exact (MemoryStore.stored?_of_set? written key).trans (if_pos rfl)

end Loads

/-- Reads and writes do what they should, and callers of one key want one kind. -/
def Event.IsFaithful (kindOf : String → PayloadKind) (event : Event) : Prop :=
  event.Meets (· = .actual) (· = .kept) ∧ event.IsAsked (kindOf · = ·)

namespace State

def IsLoading (s : State) (e : CallerId) (key : String) : Prop :=
  s.HasKey e key ∧ ∃ kind, s.loaders.get? e = some ⟨kind, .loading⟩

/-- The loader of the execution is about to store the payload, and the clock reaches the end of it. -/
def IsWriting (s : State) (e : CallerId) (key : String) (p : Payload) : Prop :=
  s.HasKey e key ∧ (∃ kind, s.loaders.get? e = some ⟨kind, .writing p⟩) ∧
    (s.store.set? s.now key p.encode (ValueStore.lifetime s.ttl)).isSome = true

theorem loader_of_start {s s' : State} {e : CallerId} (stepped : s.step (.start e) = some s') :
    ∃ kind, s.loaders.get? e = some ⟨kind, .missed⟩ := by
  have step : Loads.Step (fun _ _ => True) s.loads (.start e) s'.loads := start?_loads stepped
  generalize s'.loads = l' at step
  cases step with
  | quiet other => cases other
  | start loader => exact ⟨_, loader⟩

end State

variable {kindOf : String → PayloadKind} {ttl : Option Duration} {trace : List Event} {s : State}

/-- At most one fetch function is outstanding under each key. Once a payload is stored, none is
started under its key before the lifetime of entries is over, and none at all if they do not expire. -/
theorem fetches_coalesce (reached : Reached ttl (Event.IsFaithful kindOf) trace s) :
    (∀ key e e', s.IsLoading e key → s.IsLoading e' key → e = e') ∧
      ∀ key e p s', s.IsWriting e key p → s.step (.write e .kept) = some s' →
        ∀ more s'', (∀ event ∈ more, event.IsFaithful kindOf) → s'.run more = some s'' →
          ∀ e', s''.HasKey e' key → (s''.step (.start e')).isSome = true →
            ∃ d, ttl = some d ∧ d.isZero = false ∧ s.now + d.nanos ≤ s''.now := by
  have asks (event : Event) (faithful : event.IsFaithful kindOf) : event.IsAsked (kindOf · = ·) :=
    faithful.2
  obtain ⟨sound, _⟩ := reached.sound asks
  constructor
  · rintro key e e' ⟨named, kind, loader⟩ ⟨named', kind', loader'⟩
    exact sound.unique (named.running sound loader rfl) rfl (named'.running sound loader' rfl) rfl
  · rintro key e p s' ⟨named, ⟨kind, loader⟩, reaches⟩ written more s'' allowed run e' named' starts
    obtain ⟨store, stored⟩ := Option.isSome_iff_exists.mp reaches
    have running := named.running sound loader rfl
    have after : s'.loads = { s.loads with store }.conclude e key kind (.ok p) :=
      (reached.steps asks written).1.keeps_payload loader running stored
    have fresh := Loads.fresh_of_written sound loader running stored
    rw [← after] at fresh
    have kept : (Event.write e .kept).IsFaithful kindOf := ⟨rfl, trivial⟩
    have still : s''.loads.Fresh key (kindOf key)
        ((ValueStore.lifetime s.ttl).map fun d => s.now + d.nanos) := by
      refine Reached.preserves (·.loads.Fresh key (kindOf key) _) (reached.step kept written) allowed run ?_ fresh
      intro _ s event s' before own stepped holds
      exact (before.steps asks stepped).1.fresh (before.sound asks).1 own.1 holds
    obtain ⟨last, starting⟩ := Option.isSome_iff_exists.mp starts
    obtain ⟨kind', missed⟩ := State.loader_of_start starting
    have sound'' := ((reached.step kept written).extend allowed run).sound asks
    have busy := named'.running sound''.1 missed rfl
    rcases still with ⟨t, due, past⟩ | ⟨rests, _⟩
    · obtain ⟨d, positive, rfl⟩ := Option.map_eq_some_iff.mp due
      obtain ⟨lives, nonzero⟩ := Option.filter_eq_some_iff.mp positive
      exact ⟨d, reached.ttl_eq.symm.trans lives, by simpa using nonzero, past⟩
    · cases rests e' _ busy missed

theorem fetches_coalesce_past_lifetime :
    ∃ front s s' more s'',
      Reached (some (.ofNanos 5)) (Event.IsFaithful fun _ => .search) front s ∧
        s.IsWriting "a" "k" (.search ⟨[]⟩) ∧ s.step (.write "a" .kept) = some s' ∧
        s'.run more = some s'' ∧ s''.HasKey "b" "k" ∧ (s''.step (.start "b")).isSome = true ∧
        s.now + 5 ≤ s''.now := by
  let front : List Event :=
    [.token "t" none, .arrive "a" "k" .search ⟨"t", none⟩, .arrive "b" "k" .search ⟨"t", none⟩,
     .check "a", .check "b", .lookup "a" .actual, .lookup "b" .actual, .enter "a",
     .recheck "a" .actual, .start "a", .finish "a" (.loaded (.search ⟨[]⟩))]
  let more : List Event :=
    [.release "a", .enter "b", .advance (.ofNanos 5), .recheck "b" .actual]
  let s := ((State.initial (some (.ofNanos 5))).run front).get (by decide +kernel)
  let s' := (s.step (.write "a" .kept)).get (by decide +kernel)
  let s'' := (s'.run more).get (by decide +kernel)
  have reached : Reached (some (.ofNanos 5)) (Event.IsFaithful fun _ => .search) front s :=
    reached_of_run (by simp [front, Event.IsFaithful, Event.Meets, Event.IsAsked])
      (Option.some_get _).symm
  have writing : s.IsWriting "a" "k" (.search ⟨[]⟩) :=
    ⟨⟨.running, by decide +kernel⟩, ⟨.search, by decide +kernel⟩, by decide +kernel⟩
  have written : s.step (.write "a" .kept) = some s' := (Option.some_get _).symm
  have allowed : ∀ event ∈ more, event.IsFaithful fun _ => .search := by
    simp [more, Event.IsFaithful, Event.Meets, Event.IsAsked]
  have run : s'.run more = some s'' := (Option.some_get _).symm
  have named : s''.HasKey "b" "k" := ⟨.running, by decide +kernel⟩
  have starts : (s''.step (.start "b")).isSome = true := by decide +kernel
  obtain ⟨d, own, _, past⟩ :=
    (fetches_coalesce reached).2 "k" "a" _ s' writing written more s'' allowed run "b" named starts
  cases own
  exact ⟨front, s, s', more, s'', reached, writing, written, run, named, starts, past⟩

end PlaceGateway.Fetch
