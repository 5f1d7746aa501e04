import PlaceGateway.Proofs.Fetch.History
import PlaceGateway.Proofs.Place.RoundTrip
/-! Whatever is stored or answered under a key is a payload that a fetch function of the key got. -/

namespace PlaceGateway.Fetch

open Flight (Call CallerId CallPhase Execution Outcome Phase)

/-- Reads and writes do what they should or fail, and callers of one key want one kind. -/
def Event.IsLocal (kindOf : String → PayloadKind) (event : Event) : Prop :=
  event.Meets (fun read => read = .actual ∨ read = .failed)
      (fun write => write = .kept ∨ write = .failed) ∧
    event.IsAsked (kindOf · = ·)

/-- In the run, a fetch function of the key got the payload, which tells something. -/
def State.Fetched (s : State) (trace : List Event) (key : String) (p : Payload) : Prop :=
  p.isEmpty = false ∧ ∃ e, s.HasKey e key ∧ Event.finish e (.loaded p) ∈ trace

def State.Sourced (s : State) (kindOf : String → PayloadKind) (trace : List Event) : Prop :=
  ∀ key entry, s.store.stored? key = some entry → ∃ p, s.Fetched trace key p ∧ p.kind = kindOf key ∧
    p.size < Payload.sizeLimit ∧ entry.value = p.encode

variable {ttl : Option Duration} {Allowed : Event → Prop} {kindOf : String → PayloadKind}
  {trace : List Event} {event : Event} {e key : String} {kind : PayloadKind} {s s' : State}

theorem State.Fetched.later {more : List Event} {p : Payload} (fetched : s.Fetched trace key p)
    (reached : Reached ttl Allowed trace s) (allowed : ∀ event ∈ more, Allowed event)
    (run : s.run more = some s') : s'.Fetched (trace ++ more) key p := by
  obtain ⟨told, e, named, member⟩ := fetched
  exact ⟨told, e, reached.hasKey allowed run named, List.mem_append_left _ member⟩

theorem Reached.asks_one (event : Event) (allowed : event.IsLocal kindOf) :
    event.IsAsked (kindOf · = ·) := allowed.2

theorem Reached.fetched_of_writing (reached : Reached ttl Allowed trace s) {p : Payload}
    (loader : s.loaders.get? e = some ⟨kind, .writing p⟩)
    (running : s.flight.group.executions.get? e = some ⟨key, .running⟩) : s.Fetched trace key p := by
  cases reached.told.story e kind _ key _ loader running with
  | writing _ ended _ told =>
      exact ⟨told, e, ⟨_, running⟩, mem_of_ends (by simp [ended])⟩

theorem Reached.sourced (reached : Reached ttl (Event.IsLocal kindOf) trace s) :
    s.Sourced kindOf trace := by
  induction reached with
  | initial =>
      intro key entry present
      cases present
  | @step trace s s' event before allowed stepped ih =>
      obtain ⟨sound, _⟩ := before.sound Reached.asks_one
      have step := (before.steps Reached.asks_one stepped).1
      have grown {key : String} {p : Payload} (fetched : s.Fetched trace key p) :
          s'.Fetched (trace ++ [event]) key p :=
        fetched.later before (by simpa using allowed) (by rw [State.run, stepped]; rfl)
      intro key entry present
      rcases step.stored present with old | ⟨e, kind, p, _, loader, running, _, own⟩
      · obtain ⟨p, fetched, rest⟩ := ih key entry old
        exact ⟨p, grown fetched, rest⟩
      · obtain ⟨typed, fits, _⟩ := sound.typed e kind p loader
        exact ⟨p, grown (before.fetched_of_writing loader running),
          typed.trans (sound.asked loader running).symm, fits, own⟩

theorem entry_of_payload? {store : MemoryStore} {now : Instant} {read : Read} {m : Payload}
    (honest : read = .actual ∨ read = .failed)
    (found : read.payload? store now key kind = some m) :
    ∃ entry, store.stored? key = some entry ∧ Payload.decode? kind entry.value = some m := by
  rcases honest with rfl | rfl
  · rw [Read.payload?, MemoryStore.get_snd, Option.bind_eq_some_iff] at found
    obtain ⟨value, got, decodes⟩ := found
    unfold ValueStore.found at got
    split at got
    · rename_i value' answer
      split at got
      · cases got
      · cases got
        obtain ⟨entry, kept, rfl⟩ := Option.map_eq_some_iff.mp (Except.ok.inj answer)
        exact ⟨entry, (Option.filter_eq_some_iff.mp kept).1, decodes⟩
    · cases got
  · cases found

theorem Reached.fetched_of_read (reached : Reached ttl (Event.IsLocal kindOf) trace s) {s₀ : State}
    {read : Read} {m : Payload} (happened : Happened ttl trace s₀ event)
    (honest : read = .actual ∨ read = .failed)
    (found : read.payload? s₀.store s₀.now key (kindOf key) = some m) :
    ∃ p, s.Fetched trace key p ∧ m = p.unsignZeros := by
  obtain ⟨front, rest, rfl, before, run, allowed⟩ := reached.since happened
  obtain ⟨entry, present, decodes⟩ := entry_of_payload? honest found
  obtain ⟨p, fetched, own, fits, encoded⟩ := before.sourced key entry present
  have back := Payload.decode?_encode own fits
  rw [← encoded, decodes] at back
  cases back
  exact ⟨p, fetched.later before allowed run, rfl⟩

theorem Reached.fetched_of_concludes (reached : Reached ttl (Event.IsLocal kindOf) trace s)
    {m : Payload} (concludes : s.Concludes e key (.ok m)) :
    ∃ p, s.Fetched trace key p ∧ (m = p ∨ m = p.unsignZeros) := by
  obtain ⟨sound, _⟩ := reached.sound Reached.asks_one
  obtain ⟨phase, present, told⟩ := concludes
  obtain ⟨⟨kind, loader⟩, found, asked, _⟩ := sound.attended e key phase present
  cases reached.told.story e kind loader key phase found present with
  -- A payload from the cache was fetched by an earlier execution of the key.
  | @found s₀ read p phase _ _ happened value outcome =>
      rw [outcome] at told
      cases told
      have honest : (Event.recheck e read).IsLocal kindOf := reached.allowed _ happened.mem
      have asked : kindOf key = kind := asked
      rw [← asked] at value
      obtain ⟨p, fetched, same⟩ := reached.fetched_of_read happened honest.1 value
      exact ⟨p, fetched, .inr same⟩
  | @loaded result phase _ ended own outcome =>
      rw [outcome] at told
      have ok : result.result key = .ok m := Option.some.inj told
      cases result with
      | loaded p =>
          rw [LoadOutcome.result] at ok
          split at ok
          · cases ok
          · rename_i nonempty
            cases ok
            exact ⟨m, ⟨by simpa using nonempty, e, ⟨phase, present⟩, mem_of_ends (by simp [ended])⟩,
              .inl rfl⟩
      | failed err => cases ok
      | panicked message => cases ok
  | overflow _ _ _ outcome =>
      rw [outcome] at told
      cases told
  | _ => cases told

theorem Reached.fetched_of_result (reached : Reached ttl (Event.IsLocal kindOf) trace s)
    {c : CallerId} {caller : Caller} {m : Payload} (present : s.callers.get? c = some caller)
    (returns : s.result? c = some (.ok m)) :
    ∃ p, s.Fetched trace caller.key p ∧ (m = p ∨ m = p.unsignZeros) := by
  have asked : kindOf caller.key = caller.kind :=
    (reached.sound Reached.asks_one).2.asked c caller present
  rcases reached.origin present returns with ⟨err, refused, _⟩ | ⟨_, served⟩ | answered
  · cases refused
  · obtain ⟨p, read, s₀, ok, happened, found⟩ := served
    cases ok
    have honest : (Event.lookup c read).IsLocal kindOf := reached.allowed _ happened.mem
    rw [← asked] at found
    obtain ⟨p, fetched, same⟩ := reached.fetched_of_read happened honest.1 found
    exact ⟨p, fetched, .inr same⟩
  · obtain ⟨e, o, _, ended, typed⟩ := answered
    rw [State.ok_of_ofKind typed.symm] at ended
    exact reached.fetched_of_concludes ⟨_, ended, rfl⟩

/-- Only the write of an execution that ends well adds or changes an entry. -/
theorem Reached.write_of_change (reached : Reached ttl Allowed trace s) {s₀ s₁ : State}
    {entry : MemoryEntry} (happened : Happened ttl trace s₀ event) (stepped : s₀.step event = some s₁)
    (present : s₁.store.stored? key = some entry) (new : s₀.store.stored? key ≠ some entry) :
    ∃ e p, event = .write e .kept ∧ s.Concludes e key (.ok p) ∧
      Event.finish e (.loaded p) ∈ trace ∧ p.isEmpty = false ∧ entry.value = p.encode := by
  obtain ⟨front, rest, rfl, before, run, allowed⟩ := reached.since happened
  have own := allowed event List.mem_cons_self
  rw [State.run, stepped, Option.bind_some] at run
  rcases (before.moves stepped).1.stored present with old | ⟨e, kind, p, rfl, loader, running, ending, value⟩
  · exact absurd old new
  · have ends : s₁.Concludes e key (.ok p) := ⟨_, ending, rfl⟩
    have still := (before.step own stepped).concludes
      (fun later member => allowed later (List.mem_cons_of_mem _ member)) run ends
    cases before.told.story e kind _ key _ loader running with
    | writing _ ended _ told =>
        have fetched : Event.finish e (.loaded p) ∈ front := mem_of_ends (by simp [ended])
        exact ⟨e, p, rfl, still, List.mem_append_left _ fetched, told, value⟩

/-- Every entry is the encoding of a payload that a fetch function of its key got, and every payload
that a caller gets is one of its key, but for the signs of zeros. Entries are added and changed by
writes of executions that end well, and so by none of an execution that fails. -/
theorem cached_data_was_fetched (reached : Reached ttl (Event.IsLocal kindOf) trace s) :
    (∀ key entry, s.store.stored? key = some entry →
      ∃ p, s.Fetched trace key p ∧ entry.value = p.encode) ∧
    (∀ c caller m, s.callers.get? c = some caller → s.result? c = some (.ok m) →
      ∃ p, s.Fetched trace caller.key p ∧ (m = p ∨ m = p.unsignZeros)) ∧
    (∀ s₀ event s₁ key entry, Happened ttl trace s₀ event → s₀.step event = some s₁ →
      s₁.store.stored? key = some entry → s₀.store.stored? key ≠ some entry →
        ∃ e p, event = .write e .kept ∧ s.Concludes e key (.ok p) ∧
          Event.finish e (.loaded p) ∈ trace ∧ p.isEmpty = false ∧ entry.value = p.encode) ∧
    ∀ e own err, s.Concludes e own (.error err) → ∀ s₀ event s₁, Happened ttl trace s₀ event →
      event.loader? = some e → s₀.step event = some s₁ →
        ∀ key entry, s₁.store.stored? key = some entry → s₀.store.stored? key = some entry := by
  refine ⟨?_, ?_, ?_, ?_⟩
  · intro key entry present
    obtain ⟨p, fetched, _, _, encoded⟩ := reached.sourced key entry present
    exact ⟨p, fetched, encoded⟩
  · intro c caller m present returns
    exact reached.fetched_of_result present returns
  · intro s₀ event s₁ key entry happened stepped present new
    exact reached.write_of_change happened stepped present new
  · intro e own err fails s₀ event s₁ happened acts stepped key entry present
    by_contra new
    obtain ⟨writer, p, rfl, ends, _⟩ := reached.write_of_change happened stepped present new
    cases acts
    cases fails.unique ends

theorem cached_data_was_fetched_after_failure :
    ∃ trace s m, Reached none (Event.IsLocal fun _ => .search) trace s ∧
      s.Concludes "a" "k" (.error .cancelled) ∧ s.result? "c" = some (.ok m) ∧
      ∃ p, s.Fetched trace "k" p ∧ (m = p ∨ m = p.unsignZeros) := by
  let trace : List Event :=
    [.token "t" none, .arrive "a" "k" .search ⟨"t", none⟩, .arrive "b" "k" .search ⟨"t", none⟩,
     .arrive "c" "k" .search ⟨"t", none⟩, .check "a", .check "b", .check "c", .lookup "a" .failed,
     .enter "a", .recheck "a" .actual, .start "a", .finish "a" (.failed .cancelled), .release "a",
     .lookup "b" .actual, .enter "b", .recheck "b" .failed, .start "b",
     .finish "b" (.loaded (.search ⟨[]⟩)), .write "b" .kept, .release "b", .lookup "c" .actual]
  let s := ((State.initial none).run trace).get (by decide +kernel)
  have reached : Reached none (Event.IsLocal fun _ => .search) trace s :=
    reached_of_run (by simp [trace, Event.IsLocal, Event.Meets, Event.IsAsked])
      (Option.some_get _).symm
  have fails : s.Concludes "a" "k" (.error .cancelled) :=
    ⟨.ended (.error .cancelled), by decide +kernel, rfl⟩
  have present : s.callers.get? "c" =
      some ⟨"k", .search, ⟨"t", none⟩, .returned (.ok (.search ⟨[]⟩))⟩ := by decide +kernel
  have returns : s.result? "c" = some (.ok (.search ⟨[]⟩)) := by decide +kernel
  exact ⟨trace, s, _, reached, fails, returns,
    (cached_data_was_fetched reached).2.1 "c" _ _ present returns⟩

end PlaceGateway.Fetch
