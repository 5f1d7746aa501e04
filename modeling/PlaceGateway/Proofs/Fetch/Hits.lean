import PlaceGateway.Proofs.Fetch.Coalesce
import PlaceGateway.Proofs.Fetch.Joins
import PlaceGateway.Proofs.Fetch.Provenance
/-! Loads that fill the cache, and reads that hit what they stored. -/

namespace PlaceGateway.Fetch

open Flight (CallerId Outcome)

def State.Shows (s : State) (key : String) (entry : MemoryEntry) : Prop :=
  s.store.stored? key = some entry ∧ entry.isExpired s.now = false

/-- The execution has ended well, and has stored the entry under its key. -/
def Filled (ttl : Option Duration) (trace : List Event) (e key : String) (entry : MemoryEntry) : Prop :=
  ∃ s s' p, Happened ttl trace s (.write e .kept) ∧ s.step (.write e .kept) = some s' ∧
    s'.Concludes e key (.ok p) ∧ s'.store.stored? key = some entry

/-- The caller is answered from the entry: its lookup finds it, or that of the loader for which it
waits. -/
inductive Hits (ttl : Option Duration) (trace : List Event) (c key : String) (entry : MemoryEntry) : Prop where
  | own {s : State} {caller : Caller} (happened : Happened ttl trace s (.lookup c .actual))
      (present : s.callers.get? c = some caller) (named : caller.key = key) (shows : s.Shows key entry)
  | shared {s : State} {e : CallerId} (joined : Joined ttl trace c e)
      (happened : Happened ttl trace s (.recheck e .actual)) (named : s.HasKey e key)
      (shows : s.Shows key entry)

variable {ttl : Option Duration} {Allowed : Event → Prop} {kindOf : String → PayloadKind}
  {trace : List Event} {event : Event} {c e : CallerId} {key : String} {kind : PayloadKind}
  {caller : Caller} {outcome : LoadOutcome} {entry : MemoryEntry} {p m : Payload} {o : Outcome Payload}
  {read : Read} {s s' s₀ : State}

theorem Reached.ends_eq (reached : Reached ttl Allowed trace s) (ended : Event.finish e outcome ∈ trace) :
    ends trace e = [outcome] := by
  have member : outcome ∈ ends trace e :=
    List.mem_filterMap.mpr ⟨_, ended, if_pos rfl⟩
  have one {own : LoadOutcome} (only : ends trace e = [own]) : ends trace e = [outcome] := by
    rw [only, List.mem_singleton] at member
    rw [only, member]
  have some_ (none : ends trace e = []) : ends trace e = [outcome] := by
    rw [none] at member
    cases member
  obtain ⟨sound, _⟩ := reached.isSound
  cases present : s.loads.loaders.get? e with
  | none => exact some_ (reached.told.silent e present).2
  | some loader =>
      obtain ⟨kind, own⟩ := loader
      obtain ⟨⟨key, phase⟩, found⟩ := sound.known e _ present
      cases reached.told.story e kind own key phase present found with
      | spawned _ none => exact some_ none
      | missed _ none => exact some_ none
      | loading _ none => exact some_ none
      | found _ none _ _ _ => exact some_ none
      | writing _ only _ _ => exact one only
      | loaded _ only _ _ => exact one only
      | overflow _ only _ _ => exact one only

theorem Reached.outcome_of_finish (reached : Reached ttl Allowed trace s)
    (ended : Event.finish e outcome ∈ trace) (concludes : s.Concludes e key o) :
    o = outcome.result key ∨ ∃ message, o = .error (.internal (.loaderPanicked message)) := by
  have only := reached.ends_eq ended
  obtain ⟨sound, _⟩ := reached.isSound
  obtain ⟨phase, found, told⟩ := concludes
  obtain ⟨⟨kind, loader⟩, present, _⟩ := sound.attended e key phase found
  cases reached.told.story e kind loader key phase present found with
  | found _ none _ _ _ =>
      rw [only] at none
      cases none
  | loaded _ own _ result =>
      rw [only, List.singleton_inj] at own
      rw [told, ← own] at result
      exact .inl (Option.some.inj result)
  | overflow _ _ _ result =>
      rw [told] at result
      exact .inr ⟨_, Option.some.inj result⟩
  | _ => cases told

theorem Joined.concludes (joined : Joined ttl trace c e) (reached : Reached ttl Allowed trace s)
    (returns : s.result? c = some (.ok m)) : ∃ key, s.Concludes e key (.ok m) := by
  obtain ⟨caller, present, _⟩ := joined.waiter reached
  rcases joined.origin reached present returns with ⟨err, refused, _⟩ | ⟨o, ended, typed⟩
  · cases refused
  · cases State.ok_of_ofKind typed.symm
    exact ⟨caller.key, _, ended, rfl⟩

theorem Joined.payload_eq (joined : Joined ttl trace c e) (reached : Reached ttl Allowed trace s)
    (loaded : Event.finish e (.loaded p) ∈ trace) (told : p.isEmpty = false)
    (returns : s.result? c = some (.ok m)) : m = p := by
  obtain ⟨key, concludes⟩ := joined.concludes reached returns
  have result : (LoadOutcome.loaded p).result key = .ok p := by
    simp [LoadOutcome.result, told]
  rcases reached.outcome_of_finish loaded concludes with same | ⟨message, panicked⟩
  · rw [result] at same
    exact Except.ok.inj same
  · cases panicked

theorem Filled.source (filled : Filled ttl trace e key entry)
    (reached : Reached ttl (Event.IsLocal kindOf) trace s) :
    ∃ p, Event.finish e (.loaded p) ∈ trace ∧ p.kind = kindOf key ∧ p.size < Payload.sizeLimit ∧
      entry.value = p.encode := by
  obtain ⟨s₀, s₁, ended, happened, stepped, concludes, stored⟩ := filled
  obtain ⟨front, rest, rfl, before, _, allowed⟩ := reached.since happened
  obtain ⟨sound, _⟩ := before.sound Reached.asks_one
  have step := (before.steps Reached.asks_one stepped).1
  obtain ⟨phase, found, told⟩ := concludes
  change s₁.loads.executions.get? e = some ⟨key, phase⟩ at found
  change s₁.loads.store.stored? key = some entry at stored
  generalize s₁.loads = l' at step found stored
  cases step with
  | quiet other _ _ _ => cases other
  | @keep _ own kind p store loader running written =>
      simp only [Loads.conclude, Table.get?_set, if_true, Option.some.injEq, Flight.Execution.mk.injEq]
        at found
      obtain ⟨rfl, rfl⟩ := found
      change store.stored? own = some entry at stored
      rw [MemoryStore.stored?_of_set? written, if_pos rfl] at stored
      cases stored
      obtain ⟨typed, fits, _⟩ := sound.typed e kind p loader
      cases before.told.story e kind _ own _ loader running with
      | writing _ only _ _ =>
          exact ⟨p, List.mem_append_left _ (mem_of_ends (by simp [only])),
            typed.trans (sound.asked loader running).symm, fits, rfl⟩
  | overflow loader running late =>
      simp only [Loads.conclude, Table.get?_set, if_true, Option.some.injEq, Flight.Execution.mk.injEq]
        at found
      obtain ⟨_, rfl⟩ := found
      cases told
  | pass _ _ unkept => exact absurd rfl unkept

theorem State.Shows.payload? (shows : s.Shows key entry) (encoded : entry.value = p.encode)
    (fits : p.size < Payload.sizeLimit) (own : p.kind = kind) :
    Read.payload? s.store s.now key kind .actual = some p.unsignZeros := by
  obtain ⟨stored, live⟩ := shows
  obtain ⟨value, deadline⟩ := entry
  cases encoded
  refine Loads.payload?_of_entry (l := s.loads) stored ?_ p.encode_ne_nil (Payload.decode?_encode own fits)
  intro t due
  have unexpired : decide (t ≤ s.now) = false := by simpa [MemoryEntry.isExpired, due] using live
  exact Nat.lt_of_not_le (of_decide_eq_false unexpired)

theorem State.returned_of_step {r : Outcome Payload} (present : s.callers.get? c = some caller)
    (returned : caller.phase = .returned r) (stepped : s.step event = some s') :
    s'.callers.get? c = some caller := by
  have beside {d : CallerId} {own next : Caller} (was : s.callers.get? d = some own)
      (pending : own.phase ≠ .returned r) : (s.callers.set d next).get? c = some caller := by
    have differs : c ≠ d := by
      rintro rfl
      rw [present] at was
      cases was
      exact pending returned
    rw [Table.get?_set, if_neg differs, present]
  -- Loaders touch no caller, and no step of a caller starts where it has returned.
  cases loader : event.loader? with
  | some e =>
      have same : s'.calls = s.calls := loader_calls loader stepped
      exact (congrArg (·.callers.get? c) same).trans present
  | none =>
      cases event with
      | token id parent =>
          obtain ⟨flight, _, rfl⟩ := Option.map_eq_some_iff.mp stepped
          exact present
      | cancel id =>
          cases stepped
          exact present
      | advance d =>
          obtain ⟨now, _, rfl⟩ := Option.map_eq_some_iff.mp stepped
          exact present
      | purge =>
          cases stepped
          exact present
      | arrive d key kind context =>
          obtain ⟨absent, _, rfl⟩ := arrive?_iff.mp stepped
          have differs : c ≠ d := Table.ne_of_get? present (Table.contains_eq_false_iff.mp absent)
          exact (Table.get?_set _ _ _ _).trans ((if_neg differs).trans present)
      | check d =>
          obtain ⟨own, was, arrived, rfl⟩ := check?_iff.mp stepped
          exact beside was (by simp [arrived])
      | lookup d read =>
          obtain ⟨own, was, checked, rfl⟩ := lookup?_iff.mp stepped
          obtain ⟨store, counters, same⟩ := find_fst s own.key own.kind read
          rw [same]
          cases (s.find own.key own.kind read).2 <;> exact beside was (by simp [checked])
      | enter d =>
          obtain ⟨own, flight, was, missed, _, rfl⟩ := enter?_iff.mp stepped
          exact beside was (by simp [missed])
      | receive d =>
          obtain ⟨flight, _, rfl⟩ := Option.map_eq_some_iff.mp stepped
          exact present
      | giveUp d choice =>
          obtain ⟨flight, _, rfl⟩ := Option.map_eq_some_iff.mp stepped
          exact present
      | drop d =>
          obtain ⟨own, was, ⟨_, flight, _, rfl⟩ | ⟨early, rfl⟩⟩ := drop?_iff.mp stepped
          · exact present
          · refine beside was fun left => ?_
            rw [left] at early
            cases early
      | _ => cases loader

theorem Reached.result_of_lookup (reached : Reached ttl Allowed trace s)
    (happened : Happened ttl trace s₀ (.lookup c read)) (present : s₀.callers.get? c = some caller)
    (found : read.payload? s₀.store s₀.now caller.key caller.kind = some m) :
    s.result? c = some (.ok m) := by
  obtain ⟨front, rest, rfl, before, run, allowed⟩ := reached.since happened
  obtain ⟨s₁, stepped, run⟩ := Option.bind_eq_some_iff.mp run
  have returned : s₁.callers.get? c = some { caller with phase := .returned (.ok m) } := by
    obtain ⟨own, was, _, rfl⟩ := State.lookup?_iff.mp stepped
    rw [present] at was
    cases was
    have value := State.find_snd s₀ caller.key caller.kind read
    rw [found] at value
    rw [value]
    simp [State.answer, State.setCaller]
  have after := before.step (allowed _ List.mem_cons_self) stepped
  have last : s.callers.get? c = some { caller with phase := .returned (.ok m) } :=
    after.preserves (·.callers.get? c = some { caller with phase := .returned (.ok m) })
      (fun later member => allowed later (List.mem_cons_of_mem _ member)) run
      (fun _ _ stepped was => State.returned_of_step was rfl stepped) returned
  rw [State.result?, last]

theorem Reached.result_of_shows (reached : Reached ttl (Event.IsLocal kindOf) trace s)
    (happened : Happened ttl trace s₀ (.lookup c .actual)) (present : s₀.callers.get? c = some caller)
    (shows : s₀.Shows caller.key entry) (encoded : entry.value = p.encode)
    (fits : p.size < Payload.sizeLimit) (own : p.kind = kindOf caller.key) :
    s.result? c = some (.ok p.unsignZeros) := by
  obtain ⟨front, rest, rfl, before, _⟩ := reached.since happened
  have asked := (before.sound Reached.asks_one).2.asked c caller present
  exact reached.result_of_lookup happened present (shows.payload? encoded fits (own.trans asked))

theorem Reached.concludes_of_recheck (reached : Reached ttl (Event.IsLocal kindOf) trace s)
    (happened : Happened ttl trace s₀ (.recheck e read)) (named : s₀.HasKey e key)
    (found : read.payload? s₀.store s₀.now key (kindOf key) = some m) : s.Concludes e key (.ok m) := by
  obtain ⟨front, rest, rfl, before, run, allowed⟩ := reached.since happened
  obtain ⟨s₁, stepped, run⟩ := Option.bind_eq_some_iff.mp run
  have after := before.step (allowed _ List.mem_cons_self) stepped
  refine after.concludes (fun later member => allowed later (List.mem_cons_of_mem _ member)) run ?_
  obtain ⟨sound, _⟩ := before.sound Reached.asks_one
  have step := (before.steps Reached.asks_one stepped).1
  obtain ⟨phase, execution⟩ := named
  change s₀.loads.executions.get? e = some ⟨key, phase⟩ at execution
  change ∃ phase, s₁.loads.executions.get? e = some ⟨key, phase⟩ ∧ phase.outcome? = some (.ok m)
  generalize s₁.loads = l' at step
  cases step with
  | quiet other _ _ _ => cases other
  | hit loader running value _ _ =>
      have asked : kindOf _ = _ := sound.asked loader running
      rw [execution] at running
      cases running
      rw [← asked] at value
      cases value.symm.trans found
      exact ⟨.ending (.ok m), by simp [Loads.conclude], rfl⟩
  | miss loader running value _ _ =>
      have asked : kindOf _ = _ := sound.asked loader running
      rw [execution] at running
      cases running
      rw [← asked] at value
      cases value.symm.trans found

theorem Hits.payload_eq (hits : Hits ttl trace c key entry)
    (reached : Reached ttl (Event.IsLocal kindOf) trace s) (encoded : entry.value = p.encode)
    (fits : p.size < Payload.sizeLimit) (own : p.kind = kindOf key)
    (returns : s.result? c = some (.ok m)) : m = p.unsignZeros := by
  cases hits with
  | @own s₀ caller happened present named shows =>
      subst named
      have result := reached.result_of_shows happened present shows encoded fits own
      rw [returns] at result
      cases result
      rfl
  | @shared s₀ e joined happened named shows =>
      obtain ⟨key', concludes⟩ := joined.concludes reached returns
      have found := reached.concludes_of_recheck happened named (shows.payload? encoded fits own)
      cases concludes.unique found
      rfl

end PlaceGateway.Fetch
