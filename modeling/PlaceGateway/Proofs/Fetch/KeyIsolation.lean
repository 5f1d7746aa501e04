import PlaceGateway.Proofs.Fetch.Joins
import PlaceGateway.Proofs.Fetch.Projection
/-! Isolation of keys. The steps that are for one key, with the clock, purges and tokens, are a run of
their own, and in that run the key fares as it does among all others. -/

namespace PlaceGateway

namespace Tokens

variable {keep : TokenId → Bool} {ts : Tokens} {id : TokenId} {token : Token}
  {entries : List (TokenId × Token)}

theorem Closed.setEntry (closed : Closed keep entries)
    (family : keep id = true → ∀ parent, token.parent = some parent → keep parent = true) :
    Closed keep (Table.setEntry id token entries) := by
  induction entries with
  | nil => exact List.forall_mem_singleton.mpr family
  | cons entry rest ih =>
      obtain ⟨own, first⟩ := entry
      obtain ⟨parents, closed⟩ := List.forall_mem_cons.mp closed
      rw [Table.setEntry]
      split
      · exact List.forall_mem_cons.mpr ⟨family, closed⟩
      · exact List.forall_mem_cons.mpr ⟨parents, ih closed⟩

theorem Closed.mark (closed : Closed keep entries) (id : TokenId) (marked : List TokenId) :
    Closed keep (mark id marked entries) := by
  induction entries generalizing marked with
  | nil => exact closed
  | cons entry rest ih =>
      obtain ⟨own, first⟩ := entry
      obtain ⟨parents, closed⟩ := List.forall_mem_cons.mp closed
      rw [Tokens.mark]
      split
      · exact List.forall_mem_cons.mpr ⟨parents, ih closed _⟩
      · exact List.forall_mem_cons.mpr ⟨parents, ih closed _⟩

end Tokens

namespace Fetch

open Flight (Call CallerId Execution Outcome)

variable {P : Part} {n : Nat} {counters : Counters} {c e : CallerId} {s s' : State} {event : Event}
  {ttl : Option Duration} {trace : List Event}

theorem Reached.came {Allowed : Event → Prop} {key : String} {kind : PayloadKind} {context : CallContext}
    (reached : Reached ttl Allowed trace s) (member : Event.arrive c key kind context ∈ trace) :
    ∃ phase, s.callers.get? c = some ⟨key, kind, context, phase⟩ := by
  induction reached with
  | initial => cases member
  | step before _ stepped ih =>
      rcases List.mem_append.mp member with early | last
      · obtain ⟨phase, present⟩ := ih early
        have still := (before.moves stepped).2.stays present
        exact still
      · cases List.mem_singleton.mp last
        obtain ⟨_, _, rfl⟩ := State.arrive?_iff.mp stepped
        exact ⟨.arrived, by simp⟩

namespace Part

/-- Callers take their steps for the key or for others, and loaders take those of the callers that started
them. The clock and purges are for all. -/
def keeps (P : Part) : Event → Bool
  | .token id _ | .cancel id => P.tokens id
  | .advance _ | .purge => true
  | .arrive c _ _ _ | .check c | .lookup c _ | .enter c | .receive c | .giveUp c _ | .drop c => P.callers c
  | .recheck e _ | .start e | .finish e _ | .write e _ | .release e => P.callers e

/-- The callers are those that come for the key. Their tokens belong to the part, and so do the parents of
tokens that do. -/
def Admits (P : Part) : Event → Prop
  | .token id parent => P.tokens id = true → ∀ p, parent = some p → P.tokens p = true
  | .arrive c key _ context => P.callers c = P.keys key ∧ (P.callers c = true → P.tokens context.token = true)
  | _ => True

/-- Whatever is the callers' belongs to the part, and what is others' does not. -/
structure Fits (P : Part) (s : State) : Prop where
  callers : ∀ c caller, s.callers.get? c = some caller → P.callers c = P.keys caller.key
  contexts : ∀ c caller, s.callers.get? c = some caller → P.callers c = true →
    P.tokens caller.context.token = true
  executions : ∀ e execution, s.flight.group.executions.get? e = some execution →
    P.callers e = P.keys execution.key
  calls : ∀ c call, s.flight.calls.get? c = some call → P.callers c = true →
    P.tokens call.context.token = true ∧ ∀ e, call.phase = .waiting e → P.callers e = true
  tokens : Tokens.Closed P.tokens s.flight.tokens.entries

theorem closed_token? {f f' : Flight.State Payload} {id : TokenId} {parent : Option TokenId}
    (closed : Tokens.Closed P.tokens f.tokens.entries)
    (family : P.tokens id = true → ∀ p, parent = some p → P.tokens p = true)
    (made : f.token? id parent = some f') : Tokens.Closed P.tokens f'.tokens.entries := by
  obtain ⟨_, _, rfl⟩ := Flight.State.token?_iff.mp made
  exact closed.setEntry family

theorem closed_step (closed : Tokens.Closed P.tokens s.flight.tokens.entries) (admits : P.Admits event)
    (stepped : s.step event = some s') : Tokens.Closed P.tokens s'.flight.tokens.entries := by
  have unchanged (same : s'.calls = s.calls) : Tokens.Closed P.tokens s'.flight.tokens.entries := by
    have tokens : s'.flight.tokens = s.flight.tokens := congrArg Calls.tokens same
    rwa [tokens]
  -- Only a new token adds an entry, and a cancellation leaves the parents.
  cases event with
  | token id parent =>
      obtain ⟨flight, made, rfl⟩ := Option.map_eq_some_iff.mp stepped
      exact closed_token? closed admits made
  | cancel id =>
      cases stepped
      exact closed.mark id []
  | advance d =>
      obtain ⟨now, _, rfl⟩ := Option.map_eq_some_iff.mp stepped
      exact closed
  | purge =>
      cases stepped
      exact closed
  | arrive c key kind context =>
      obtain ⟨_, _, rfl⟩ := State.arrive?_iff.mp stepped
      exact closed
  | check c =>
      obtain ⟨caller, _, _, rfl⟩ := State.check?_iff.mp stepped
      exact closed
  | lookup c read =>
      obtain ⟨caller, _, _, rfl⟩ := State.lookup?_iff.mp stepped
      obtain ⟨store, counters, same⟩ := State.find_fst s caller.key caller.kind read
      rw [same]
      cases (s.find caller.key caller.kind read).2 <;> exact closed
  | enter c =>
      obtain ⟨caller, flight, _, _, called, rfl⟩ := State.enter?_iff.mp stepped
      obtain ⟨_, shape⟩ := Flight.State.call?_spec called
      rcases shape with ⟨_, _, rfl⟩ | ⟨_, ⟨_, _, rfl⟩ | ⟨_, rfl⟩⟩ <;> exact closed
  | recheck e read => exact unchanged (State.loader_calls rfl stepped)
  | start e => exact unchanged (State.loader_calls rfl stepped)
  | finish e outcome => exact unchanged (State.loader_calls rfl stepped)
  | write e w => exact unchanged (State.loader_calls rfl stepped)
  | release e => exact unchanged (State.loader_calls rfl stepped)
  | receive c =>
      obtain ⟨flight, received, rfl⟩ := Option.map_eq_some_iff.mp stepped
      obtain ⟨_, _, _, _, _, _, _, rfl⟩ := Flight.State.receive?_spec received
      exact closed
  | giveUp c choice =>
      obtain ⟨flight, given, rfl⟩ := Option.map_eq_some_iff.mp stepped
      obtain ⟨_, _, _, _, _, _, rfl⟩ := Flight.State.giveUp?_spec given
      exact closed
  | drop c =>
      obtain ⟨caller, _, ⟨_, flight, left, rfl⟩ | ⟨_, rfl⟩⟩ := State.drop?_iff.mp stepped
      · obtain ⟨_, _, _, _, rfl⟩ := Flight.State.drop?_spec left
        exact closed
      · exact closed

theorem fits_of_reached (reached : Reached ttl P.Admits trace s) : P.Fits s := by
  obtain ⟨-, calls⟩ := reached.isSound
  have callers (c : CallerId) (caller : Caller) (present : s.callers.get? c = some caller) :
      P.callers c = P.keys caller.key ∧ (P.callers c = true → P.tokens caller.context.token = true) :=
    reached.allowed _ (reached.arrived present)
  have executions (e : CallerId) (execution : Execution Payload)
      (found : s.flight.group.executions.get? e = some execution) : P.callers e = P.keys execution.key := by
    obtain ⟨kind, context, member⟩ := reached.started ⟨execution.phase, found⟩
    exact (reached.allowed _ member).1
  refine ⟨fun c caller present => (callers c caller present).1,
    fun c caller present => (callers c caller present).2, executions, ?_, ?_⟩
  · intro c call called kept
    obtain ⟨caller, present, _, key, context⟩ := calls.entered c call called
    obtain ⟨keyed, brings⟩ := callers c caller present
    refine ⟨context ▸ brings kept, fun e waits => ?_⟩
    obtain ⟨phase, found⟩ := calls.attached c call e called waits
    rw [executions e _ found, ← kept, keyed, key]
  · clear calls callers executions
    induction reached with
    | initial => exact fun _ member => absurd member List.not_mem_nil
    | step _ admits stepped ih => exact closed_step ih admits stepped

theorem caller_state (kept : P.callers c = true) :
    (P.state s n counters).callers.get? c = s.callers.get? c := Table.get?_restrict _ kept

theorem loader_state (kept : P.callers e = true) :
    (P.state s n counters).loaders.get? e = s.loaders.get? e := Table.get?_restrict _ kept

theorem execution_state (kept : P.callers e = true) :
    (P.state s n counters).flight.group.executions.get? e = s.flight.group.executions.get? e :=
  Table.get?_restrict _ kept

theorem Fits.key_of_caller (fits : P.Fits s) (kept : P.callers c = true) {caller : Caller}
    (present : s.callers.get? c = some caller) : caller.key = P.key :=
  eq_of_beq ((fits.callers c caller present).symm.trans kept)

theorem Fits.key_of_execution (fits : P.Fits s) (kept : P.callers e = true)
    {execution : Execution Payload} (found : s.flight.group.executions.get? e = some execution) :
    execution.key = P.key :=
  eq_of_beq ((fits.executions e execution found).symm.trans kept)

theorem check?_state (fits : P.Fits s) (kept : P.callers c = true) (stepped : s.check? c = some s') :
    (P.state s n counters).check? c = some (P.state s' n counters) := by
  obtain ⟨caller, present, arrived, rfl⟩ := State.check?_iff.mp stepped
  have checked : caller.context.check (P.state s n counters).flight.tokens (P.state s n counters).now =
      caller.context.check s.flight.tokens s.now := check_flight (fits.contexts c caller present kept) s.now
  refine State.check?_iff.mpr ⟨caller, (caller_state kept).trans present, arrived, ?_⟩
  rw [checked, setCaller_state kept]

theorem lookup?_state {read : Read} (fits : P.Fits s) (kept : P.callers c = true)
    (stepped : s.lookup? c read = some s') (n : Nat) (counters : Counters) :
    ∃ counters', (P.state s n counters).lookup? c read = some (P.state s' n counters') := by
  obtain ⟨caller, present, checked, rfl⟩ := State.lookup?_iff.mp stepped
  rw [fits.key_of_caller kept present]
  obtain ⟨_, found⟩ := find_state s n counters caller.kind read
  obtain ⟨counters', answered⟩ := answer_state (n := n) kept caller (s.find P.key caller.kind read).2
  refine ⟨counters', State.lookup?_iff.mpr ⟨caller, (caller_state kept).trans present, checked, ?_⟩⟩
  rw [fits.key_of_caller kept present, found, answered]

theorem enter?_state (fits : P.Fits s) (kept : P.callers c = true) (stepped : s.enter? c = some s')
    (n : Nat) (counters : Counters) :
    ∃ n', (P.state s n counters).enter? c = some (P.state s' n' counters) := by
  obtain ⟨caller, flight, present, missed, called, rfl⟩ := State.enter?_iff.mp stepped
  have key := fits.key_of_caller kept present
  rw [key] at called
  obtain ⟨n', called'⟩ := call?_flight kept (fits.contexts c caller present kept) called n
  refine ⟨n', State.enter?_iff.mpr ⟨caller, P.flight flight n', (caller_state kept).trans present, missed,
    ?_, (attach_state kept caller flight n').symm⟩⟩
  rw [key]
  exact called'

theorem recheck?_state {read : Read} (fits : P.Fits s) (kept : P.callers e = true)
    (stepped : s.recheck? e read = some s') (n : Nat) (counters : Counters) :
    ∃ counters', (P.state s n counters).recheck? e read = some (P.state s' n counters') := by
  obtain ⟨loader, execution, present, found, spawned, reread⟩ := State.recheck?_iff.mp stepped
  have key := fits.key_of_execution kept found
  rw [key] at reread
  obtain ⟨counters', looked⟩ := find_state s n counters loader.kind read
  refine ⟨counters', State.recheck?_iff.mpr ⟨loader, execution, (loader_state kept).trans present,
    (execution_state kept).trans found, spawned, ?_⟩⟩
  rw [key, looked, (follows_state kept).reread?, reread, Option.map_some]

theorem start?_state (kept : P.callers e = true) (stepped : s.start? e = some s') :
    (P.state s n counters).start? e = some (P.state s' n counters) := by
  obtain ⟨loader, present, missed, rfl⟩ := State.start?_iff.mp stepped
  refine State.start?_iff.mpr ⟨loader, (loader_state kept).trans present, missed, ?_⟩
  rw [setLoader_state kept]

theorem finish?_state {outcome : LoadOutcome} (kept : P.callers e = true)
    (stepped : s.finish? e outcome = some s') :
    (P.state s n counters).finish? e outcome = some (P.state s' n counters) := by
  obtain ⟨loader, execution, present, found, loading, ended⟩ := State.finish?_iff.mp stepped
  refine State.finish?_iff.mpr ⟨loader, execution, (loader_state kept).trans present,
    (execution_state kept).trans found, loading, ?_⟩
  rw [(follows_state kept).end?, ended, Option.map_some]

theorem write?_state {write : Write} (fits : P.Fits s) (kept : P.callers e = true)
    (stepped : s.write? e write = some s') (n : Nat) (counters : Counters) :
    ∃ counters', (P.state s n counters).write? e write = some (P.state s' n counters') := by
  obtain ⟨loader, execution, p, present, found, writing, wrote⟩ := State.write?_iff.mp stepped
  have key := fits.key_of_execution kept found
  rw [key] at wrote
  obtain ⟨counters', keeps⟩ := keep?_state s n counters kept loader p write
  refine ⟨counters', State.write?_iff.mpr ⟨loader, execution, p, (loader_state kept).trans present,
    (execution_state kept).trans found, writing, ?_⟩⟩
  rw [key, keeps, wrote, Option.map_some]

theorem release?_state (fits : P.Fits s) (kept : P.callers e = true) (stepped : s.release? e = some s') :
    (P.state s n counters).release? e = some (P.state s' n counters) := by
  obtain ⟨group, released, rfl⟩ := Option.map_eq_some_iff.mp stepped
  have own : (P.state s n counters).flight.group.release? e = (s.flight.group.release? e).map (P.group · n) :=
    release?_group kept fun execution found => fits.key_of_execution kept found
  rw [State.release?, own, released]
  rfl

theorem drop?_state (kept : P.callers c = true) (stepped : s.drop? c = some s') :
    (P.state s n counters).drop? c = some (P.state s' n counters) := by
  obtain ⟨caller, present, ⟨flying, flight, left, rfl⟩ | ⟨early, rfl⟩⟩ := State.drop?_iff.mp stepped
  · exact State.drop?_iff.mpr ⟨caller, (caller_state kept).trans present,
      .inl ⟨flying, P.flight flight n, drop?_flight kept left, rfl⟩⟩
  · refine State.drop?_iff.mpr ⟨caller, (caller_state kept).trans present, .inr ⟨early, ?_⟩⟩
    rw [setCaller_state kept]

theorem state_step (fits : P.Fits s) (admits : P.Admits event) (kept : P.keeps event = true)
    (stepped : s.step event = some s') (n : Nat) (counters : Counters) :
    ∃ n' counters', (P.state s n counters).step event = some (P.state s' n' counters') := by
  cases event with
  | token id parent =>
      obtain ⟨flight, made, rfl⟩ := Option.map_eq_some_iff.mp stepped
      have own := token?_flight (n := n) kept (admits kept) made
      exact ⟨n, counters, Option.map_eq_some_iff.mpr ⟨_, own, rfl⟩⟩
  | cancel id =>
      cases stepped
      refine ⟨n, counters, congrArg some (Eq.symm ?_)⟩
      rw [state, flight, Tokens.cancel_restrict fits.tokens]
      rfl
  | advance d =>
      obtain ⟨now, reached, rfl⟩ := Option.map_eq_some_iff.mp stepped
      exact ⟨n, counters, Option.map_eq_some_iff.mpr ⟨now, reached, rfl⟩⟩
  | purge =>
      cases stepped
      refine ⟨n, counters, congrArg some (Eq.symm ?_)⟩
      rw [state, MemoryStore.purge_restrict]
      rfl
  | arrive c key kind context =>
      obtain ⟨new, known, rfl⟩ := State.arrive?_iff.mp stepped
      refine ⟨n, counters, State.arrive?_iff.mpr ⟨(Table.contains_restrict _ kept).trans new,
        (Table.contains_restrict _ (admits.2 kept)).trans known, ?_⟩⟩
      rw [state, state, Table.set_restrict _ kept]
  | check c => exact ⟨n, counters, check?_state fits kept stepped⟩
  | lookup c read => exact ⟨n, lookup?_state fits kept stepped n counters⟩
  | enter c =>
      obtain ⟨n', entered⟩ := enter?_state fits kept stepped n counters
      exact ⟨n', counters, entered⟩
  | recheck e read => exact ⟨n, recheck?_state fits kept stepped n counters⟩
  | start e => exact ⟨n, counters, start?_state kept stepped⟩
  | finish e outcome => exact ⟨n, counters, finish?_state kept stepped⟩
  | write e w => exact ⟨n, write?_state fits kept stepped n counters⟩
  | release e => exact ⟨n, counters, release?_state fits kept stepped⟩
  | receive c =>
      obtain ⟨flight, received, rfl⟩ := Option.map_eq_some_iff.mp stepped
      have own := receive?_flight (n := n) kept (fun call present => fits.calls c call present kept) received
      exact ⟨n, counters, Option.map_eq_some_iff.mpr ⟨_, own, rfl⟩⟩
  | giveUp c choice =>
      obtain ⟨flight, given, rfl⟩ := Option.map_eq_some_iff.mp stepped
      have own := giveUp?_flight (n := n) kept (fun call present => (fits.calls c call present kept).1) given
      exact ⟨n, counters, Option.map_eq_some_iff.mpr ⟨_, own, rfl⟩⟩
  | drop c => exact ⟨n, counters, drop?_state kept stepped⟩

theorem state_step_of_not (fits : P.Fits s) (admits : P.Admits event) (dropped : P.keeps event = false)
    (stepped : s.step event = some s') (n : Nat) (counters : Counters) :
    P.state s' n counters = P.state s n counters := by
  -- Each event writes under names and keys that the part leaves out.
  cases event with
  | token id parent =>
      obtain ⟨flight, made, rfl⟩ := Option.map_eq_some_iff.mp stepped
      obtain ⟨token, _, rfl⟩ := Flight.State.token?_spec made
      rw [state, Part.flight, Table.set_restrict_of_not _ dropped]
      rfl
  | cancel id =>
      cases stepped
      rw [state, flight, Tokens.cancel_restrict_of_not fits.tokens dropped]
      rfl
  | advance d => cases dropped
  | purge => cases dropped
  | arrive c key kind context =>
      obtain ⟨_, _, rfl⟩ := State.arrive?_iff.mp stepped
      rw [state, Table.set_restrict_of_not _ dropped, state]
  | check c =>
      obtain ⟨caller, _, _, rfl⟩ := State.check?_iff.mp stepped
      exact setCaller_state_of_not dropped caller _
  | lookup c read =>
      obtain ⟨caller, present, _, rfl⟩ := State.lookup?_iff.mp stepped
      have other : P.keys caller.key = false := (fits.callers c caller present).symm.trans dropped
      rw [answer_state_of_not dropped, find_state_of_not other]
  | enter c =>
      obtain ⟨caller, flight, present, _, called, rfl⟩ := State.enter?_iff.mp stepped
      have other : P.keys caller.key = false := (fits.callers c caller present).symm.trans dropped
      exact attach_state_of_not dropped caller (call?_flight_of_not dropped other called n)
  | recheck e read =>
      obtain ⟨loader, execution, _, found, _, reread⟩ := State.recheck?_iff.mp stepped
      have other : P.keys execution.key = false := (fits.executions e execution found).symm.trans dropped
      rw [reread?_state_of_not dropped reread, find_state_of_not other]
  | start e =>
      obtain ⟨loader, _, _, rfl⟩ := State.start?_iff.mp stepped
      exact setLoader_state_of_not dropped loader _
  | finish e outcome =>
      obtain ⟨loader, execution, _, _, _, ended⟩ := State.finish?_iff.mp stepped
      exact end?_state_of_not dropped ended
  | write e w =>
      obtain ⟨loader, execution, p, _, found, _, wrote⟩ := State.write?_iff.mp stepped
      have other : P.keys execution.key = false := (fits.executions e execution found).symm.trans dropped
      exact keep?_state_of_not dropped other wrote
  | release e =>
      obtain ⟨group, released, rfl⟩ := Option.map_eq_some_iff.mp stepped
      have same := release?_group_of_not dropped
        (fun execution found => (fits.executions e execution found).symm.trans dropped) released n
      rw [state, flight, same]
      rfl
  | receive c =>
      obtain ⟨flight, received, rfl⟩ := Option.map_eq_some_iff.mp stepped
      rw [state, receive?_flight_of_not dropped received n, state]
  | giveUp c choice =>
      obtain ⟨flight, given, rfl⟩ := Option.map_eq_some_iff.mp stepped
      rw [state, giveUp?_flight_of_not dropped given n, state]
  | drop c =>
      obtain ⟨caller, _, ⟨_, flight, left, rfl⟩ | ⟨_, rfl⟩⟩ := State.drop?_iff.mp stepped
      · rw [state, drop?_flight_of_not dropped left n, state]
      · exact setCaller_state_of_not dropped caller .dropped

theorem state_run (reached : Reached ttl P.Admits trace s) : ∃ n counters,
    (State.initial ttl).run (trace.filter P.keeps) = some (P.state s n counters) := by
  induction reached with
  | initial => exact ⟨0, ⟨0, 0, 0, 0⟩, rfl⟩
  | @step trace s s' event before admits stepped ih =>
      obtain ⟨n, counters, run⟩ := ih
      have fits := fits_of_reached before
      rw [List.filter_append]
      cases kept : P.keeps event with
      | true =>
          obtain ⟨n', counters', own⟩ := state_step fits admits kept stepped n counters
          refine ⟨n', counters', ?_⟩
          rw [List.filter_cons_of_pos kept, List.filter_nil, State.run_concat, run, Option.bind_some, own]
      | false =>
          refine ⟨n, counters, ?_⟩
          rw [List.filter_cons_of_neg (by simp [kept]), List.filter_nil, List.append_nil, run,
            state_step_of_not fits admits kept stepped]

end Part

def comesFor (trace : List Event) (key : String) (c : CallerId) : Bool :=
  trace.any fun
    | .arrive d own _ _ => d == c && own == key
    | _ => false

theorem comesFor_iff {key : String} : comesFor trace key c = true ↔
    ∃ kind context, Event.arrive c key kind context ∈ trace := by
  rw [comesFor, List.any_eq_true]
  constructor
  · rintro ⟨event, member, comes⟩
    cases event with
    | arrive d own kind context =>
        rw [Bool.and_eq_true, beq_iff_eq, beq_iff_eq] at comes
        obtain ⟨rfl, rfl⟩ := comes
        exact ⟨kind, context, member⟩
    | _ => cases comes
  · rintro ⟨kind, context, member⟩
    exact ⟨_, member, by simp⟩

def Part.of (trace : List Event) (key : String) (tokens : TokenId → Bool) : Part :=
  ⟨key, comesFor trace key, tokens⟩

theorem Part.of_admits {key : String} {tokens : TokenId → Bool}
    (run : (State.initial ttl).run trace = some s)
    (contexts : ∀ c kind context, Event.arrive c key kind context ∈ trace → tokens context.token = true)
    (families : ∀ id parent, Event.token id (some parent) ∈ trace → tokens id = true → tokens parent = true) :
    ∀ event ∈ trace, (Part.of trace key tokens).Admits event := by
  have reached : Reached ttl (fun _ => True) trace s := reached_of_run (fun _ _ => trivial) run
  intro event member
  cases event with
  | token id parent =>
      rintro kept p rfl
      exact families id p member kept
  | arrive c own kind context =>
      have once (comes : comesFor trace key c = true) : own = key := by
        obtain ⟨kind', context', other⟩ := comesFor_iff.mp comes
        obtain ⟨phase, present⟩ := reached.came member
        obtain ⟨phase', present'⟩ := reached.came other
        rw [present] at present'
        cases present'
        rfl
      refine ⟨Bool.eq_iff_iff.mpr ⟨fun comes => beq_iff_eq.mpr (once comes), fun is => ?_⟩, fun comes => ?_⟩
      · cases beq_iff_eq.mp is
        exact comesFor_iff.mpr ⟨kind, context, member⟩
      · cases once comes
        exact contexts c kind context member
  | _ => trivial

/-- The key fares in one state as in the other, and in the second there are no callers, executions or
loaders but those of the key. -/
structure State.SameOn (key : String) (s t : State) : Prop where
  now : t.now = s.now
  entry : t.store.entries.get? key = s.store.entries.get? key
  flight : t.flight.group.flights.get? key = s.flight.group.flights.get? key
  executions : ∀ e execution, t.flight.group.executions.get? e = some execution ↔
    s.flight.group.executions.get? e = some execution ∧ execution.key = key
  loaders : ∀ e loader, t.loaders.get? e = some loader ↔ s.loaders.get? e = some loader ∧ s.HasKey e key
  callers : ∀ c caller, t.callers.get? c = some caller ↔ s.callers.get? c = some caller ∧ caller.key = key
  results : ∀ c caller, s.callers.get? c = some caller → caller.key = key → t.result? c = s.result? c

theorem Part.result?_state (kept : P.callers c = true) : (P.state s n counters).result? c = s.result? c := by
  have call : (P.state s n counters).flight.result? c = s.flight.result? c := by
    rw [Flight.State.result?, Flight.State.result?]
    have calls : (P.state s n counters).flight.calls.get? c = s.flight.calls.get? c :=
      Table.get?_restrict _ kept
    rw [calls]
  rw [State.result?, caller_state kept, call, State.result?]

theorem Part.state_same (reached : Reached ttl P.Admits trace s) :
    s.SameOn P.key (P.state s n counters) := by
  have fits := fits_of_reached reached
  refine ⟨rfl, Table.get?_restrict _ P.own_key, Table.get?_restrict _ P.own_key, fun e execution => ?_,
    fun e loader => ?_, fun c caller => ?_, fun c caller present own => ?_⟩
  · refine (Table.get?_restrict_eq_some_iff _).trans (and_congr_right fun found => ?_)
    rw [fits.executions e execution found, keys, beq_iff_eq]
  · refine (Table.get?_restrict_eq_some_iff _).trans (and_congr_right fun present => ?_)
    obtain ⟨⟨own, phase⟩, known⟩ := reached.isSound.1.known e loader present
    have found : s.flight.group.executions.get? e = some ⟨own, phase⟩ := known
    rw [fits.executions e _ found, keys, beq_iff_eq, State.HasKey, found]
    constructor
    · rintro rfl
      exact ⟨phase, rfl⟩
    · rintro ⟨_, is⟩
      cases is
      rfl
  · refine (Table.get?_restrict_eq_some_iff _).trans (and_congr_right fun present => ?_)
    rw [fits.callers c caller present, keys, beq_iff_eq]
  · refine result?_state ?_
    rw [fits.callers c caller present, keys, beq_iff_eq, own]

/-- However fetches on many keys interleave and whatever becomes of other keys' loaders, the steps that are
not for others are a run, and all along it the key has the executions, the results, the entry and the flight
that it has among the others. Tokens may be kept all, or only those that callers of the key need. -/
theorem keys_are_isolated {front : List Event} (key : String) (tokens : TokenId → Bool)
    (run : (State.initial ttl).run trace = some s)
    (contexts : ∀ c kind context, Event.arrive c key kind context ∈ trace → tokens context.token = true)
    (families : ∀ id parent, Event.token id (some parent) ∈ trace → tokens id = true → tokens parent = true)
    (early : front <+: trace) :
    ∃ s₀ t₀, (State.initial ttl).run front = some s₀ ∧
      (State.initial ttl).run (front.filter (Part.of trace key tokens).keeps) = some t₀ ∧
      s₀.SameOn key t₀ := by
  have admits := Part.of_admits run contexts families
  obtain ⟨rest, rfl⟩ := early
  rw [State.run_append, Option.bind_eq_some_iff] at run
  obtain ⟨s₀, started, _⟩ := run
  have reached := reached_of_run (fun event member => admits event (List.mem_append_left rest member)) started
  obtain ⟨n, counters, own⟩ := Part.state_run reached
  exact ⟨s₀, _, started, own, Part.state_same reached⟩

def crowded : List Event :=
  [.token "t" none, .token "u" none, .arrive "a" "k" .search ⟨"t", none⟩,
    .arrive "b" "other" .place ⟨"u", none⟩, .check "a", .check "b", .lookup "b" .actual, .lookup "a" .actual, .enter "b", .enter "a",
    .recheck "b" .actual, .start "b", .finish "b" (.panicked "boom"), .recheck "a" .actual, .start "a",
    .cancel "u", .giveUp "b" .cancellation, .finish "a" (.loaded (.search ⟨[]⟩)), .release "b",
    .write "a" .kept, .release "a", .receive "a"]

theorem keys_are_isolated_in_crowd : ∃ s t, (State.initial none).run crowded = some s ∧
    (State.initial none).run (crowded.filter (Part.of crowded "k" (· == "t")).keeps) = some t ∧
    s.SameOn "k" t ∧ t.callers.get? "b" = none ∧ s.result? "b" = some (.error .cancelled) ∧
    t.result? "a" = some (.ok (.search ⟨[]⟩)) := by
  let s := ((State.initial none).run crowded).get (by decide +kernel)
  let t := ((State.initial none).run (crowded.filter (Part.of crowded "k" (· == "t")).keeps)).get
    (by decide +kernel)
  have run : (State.initial none).run crowded = some s := (Option.some_get _).symm
  have alone : (State.initial none).run (crowded.filter (Part.of crowded "k" (· == "t")).keeps) = some t :=
    (Option.some_get _).symm
  obtain ⟨s₀, t₀, whole, own, same⟩ := keys_are_isolated "k" (· == "t") run
    (by simp +contextual [crowded]) (by simp [crowded]) (List.prefix_refl crowded)
  rw [run] at whole
  rw [alone] at own
  cases whole
  cases own
  exact ⟨s, t, run, alone, same, by decide +kernel, by decide +kernel, by decide +kernel⟩

end Fetch

end PlaceGateway
