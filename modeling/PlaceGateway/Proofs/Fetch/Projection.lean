import PlaceGateway.Proofs.Fetch.Steps
import PlaceGateway.Proofs.Flight.Step
import PlaceGateway.Proofs.Table
/-! The part of a cache that is about one key: its callers with their calls, its executions with their
loaders, its flight and its entry, next to the clock and to tokens. What is done for the key is done to the
part, and what is done for other keys is not seen in it. -/

namespace PlaceGateway

namespace Tokens

variable {keep : TokenId → Bool} {ts : Tokens} {id : TokenId} {entries : List (TokenId × Token)}

def Closed (keep : TokenId → Bool) (entries : List (TokenId × Token)) : Prop :=
  ∀ entry ∈ entries, keep entry.1 = true → ∀ parent, entry.2.parent = some parent → keep parent = true

theorem isCancelled_restrict (ts : Tokens) (kept : keep id = true) :
    Tokens.isCancelled (ts.restrict keep) id = ts.isCancelled id := by
  rw [isCancelled, Table.get?_restrict ts kept, isCancelled]

theorem mark_restrict (closed : Closed keep entries) (id : TokenId) (marked marked' : List TokenId)
    (same : ∀ other, keep other = true → (other ∈ marked ↔ other ∈ marked')) :
    ((mark id marked entries).filter fun entry => keep entry.1) =
      mark id marked' (entries.filter fun entry => keep entry.1) := by
  -- The marks may differ on tokens that are left out, since no token that is kept has such a parent.
  induction entries generalizing marked marked' with
  | nil => rfl
  | cons entry rest ih =>
      obtain ⟨own, token⟩ := entry
      obtain ⟨parents, closed⟩ := List.forall_mem_cons.mp closed
      cases kept : keep own with
      | false =>
          have others : ∀ other, keep other = true → (other ∈ own :: marked ↔ other ∈ marked') := by
            intro other keeps
            have differs : other ≠ own := by
              rintro rfl
              rw [kept] at keeps
              cases keeps
            rw [List.mem_cons, or_iff_right differs]
            exact same other keeps
          rw [mark, List.filter_cons_of_neg (by simp [kept])]
          split
          · rw [List.filter_cons_of_neg (by simp [kept])]
            exact ih closed _ _ others
          · rw [List.filter_cons_of_neg (by simp [kept])]
            exact ih closed _ _ same
      | true =>
          have hit : token.parent.any (marked.contains ·) = token.parent.any (marked'.contains ·) := by
            cases parent : token.parent with
            | none => rfl
            | some p =>
                have listed := same p (parents kept p parent)
                rw [Option.any_some, Option.any_some, Bool.eq_iff_iff, List.contains_iff_mem,
                  List.contains_iff_mem]
                exact listed
          have others : ∀ other, keep other = true → (other ∈ own :: marked ↔ other ∈ own :: marked') := by
            intro other keeps
            rw [List.mem_cons, List.mem_cons, same other keeps]
          rw [mark, List.filter_cons_of_pos (by simp [kept]), mark, hit]
          split
          · rw [List.filter_cons_of_pos (by simp [kept]), ih closed _ _ others]
          · rw [List.filter_cons_of_pos (by simp [kept]), ih closed _ _ same]

theorem mark_restrict_of_not (closed : Closed keep entries) (dropped : keep id = false) (marked : List TokenId)
    (outside : ∀ other ∈ marked, keep other = false) :
    ((mark id marked entries).filter fun entry => keep entry.1) = entries.filter fun entry => keep entry.1 := by
  induction entries generalizing marked with
  | nil => rfl
  | cons entry rest ih =>
      obtain ⟨own, token⟩ := entry
      obtain ⟨parents, closed⟩ := List.forall_mem_cons.mp closed
      rw [mark]
      split
      · rename_i hit
        have out : keep own = false := by
          rcases hit with rfl | hit
          · exact dropped
          · obtain ⟨parent, is, listed⟩ := (Option.any_eq_true _ _).mp hit
            have apart := outside parent (by simpa using listed)
            by_contra kept
            rw [parents (by simpa using kept) parent is] at apart
            cases apart
        rw [List.filter_cons_of_neg (by simp [out]), List.filter_cons_of_neg (by simp [out])]
        exact ih closed _ (List.forall_mem_cons.mpr ⟨out, outside⟩)
      · rw [List.filter_cons, List.filter_cons, ih closed _ outside]

theorem cancel_restrict (closed : Closed keep ts.entries) (id : TokenId) :
    (ts.cancel id).restrict keep = Tokens.cancel (ts.restrict keep) id :=
  congrArg Table.mk (mark_restrict closed id [] [] fun _ _ => Iff.rfl)

theorem cancel_restrict_of_not (closed : Closed keep ts.entries) (dropped : keep id = false) :
    (ts.cancel id).restrict keep = ts.restrict keep :=
  congrArg Table.mk (mark_restrict_of_not closed dropped [] (by simp))

end Tokens

namespace MemoryStore

variable {now : Instant} {key : String} {keep : String → Bool}

def restrict (s : MemoryStore) (keep : String → Bool) : MemoryStore := ⟨s.entries.restrict keep⟩

theorem get_restrict (s : MemoryStore) (kept : keep key = true) :
    (s.restrict keep).get now key = ((s.get now key).1.restrict keep, (s.get now key).2) := by
  rw [get, get, restrict, Table.get?_restrict _ kept]
  cases s.entries.get? key with
  | none => rfl
  | some entry =>
      dsimp only
      split
      · rw [restrict, Table.erase_restrict]
      · rfl

theorem get_restrict_of_not (s : MemoryStore) (dropped : keep key = false) (now : Instant) :
    (s.get now key).1.restrict keep = s.restrict keep := by
  rw [get]
  split
  · rfl
  · split
    · rw [restrict, Table.erase_restrict_of_not _ dropped, restrict]
    · rfl

theorem set?_restrict (s : MemoryStore) (kept : keep key = true) (value : Bytes) (ttl : Option Duration) :
    (s.restrict keep).set? now key value ttl = (s.set? now key value ttl).map (·.restrict keep) := by
  cases ttl with
  | none => rw [set?, set?, Option.map_some, restrict, restrict, Table.set_restrict _ kept]
  | some d =>
      rw [set?, set?, Option.map_map]
      refine congrArg (Option.map · _) (funext fun t => ?_)
      rw [Function.comp_apply, restrict, restrict, Table.set_restrict _ kept]

theorem set?_restrict_of_not {s t : MemoryStore} (dropped : keep key = false) {value : Bytes}
    {ttl : Option Duration} (written : s.set? now key value ttl = some t) :
    t.restrict keep = s.restrict keep := by
  cases ttl with
  | none =>
      cases written
      rw [restrict, Table.set_restrict_of_not _ dropped, restrict]
  | some d =>
      obtain ⟨deadline, _, rfl⟩ := Option.map_eq_some_iff.mp written
      rw [restrict, Table.set_restrict_of_not _ dropped, restrict]

theorem purge_restrict (s : MemoryStore) (now : Instant) (keep : String → Bool) :
    (s.purge now).1.restrict keep = ((s.restrict keep).purge now).1 := by
  rw [purge, purge, restrict, live, live, Table.restrict, restrict, Table.restrict, List.filter_filter,
    List.filter_filter]
  simp only [Bool.and_comm]

end MemoryStore

namespace Fetch

open Flight (CallerId Outcome)

structure Part where
  key : String
  callers : CallerId → Bool
  tokens : TokenId → Bool

namespace Part

variable {V : Type} {P : Part} {n : Nat} {counters : Counters} {c e : CallerId} {key : String}

def keys (P : Part) (key : String) : Bool := key == P.key

def group (P : Part) (g : Flight.Group V) (shared : Nat) : Flight.Group V :=
  ⟨g.flights.restrict P.keys, g.executions.restrict P.callers, shared⟩

def flight (P : Part) (f : Flight.State V) (shared : Nat) : Flight.State V :=
  ⟨f.now, f.tokens.restrict P.tokens, P.group f.group shared, f.calls.restrict P.callers⟩

/-- Of the state, the part that is kept. What is counted over all keys is counted anew. -/
def state (P : Part) (s : State) (shared : Nat) (counters : Counters) : State :=
  ⟨P.flight s.flight shared, s.store.restrict P.keys, s.ttl, s.callers.restrict P.callers,
    s.loaders.restrict P.callers, counters⟩

theorem own_key (P : Part) : P.keys P.key = true := BEq.rfl

section Group

variable {g g' : Flight.Group V} {o : Outcome V}

theorem finish?_group (kept : P.callers e = true) (o : Outcome V) :
    (P.group g n).finish? e o = (g.finish? e o).map (P.group · n) := by
  rw [Flight.Group.finish?, Flight.Group.finish?, group, Table.get?_restrict _ kept]
  split
  · rw [Option.map_some, group, Table.set_restrict _ kept]
  · rfl

theorem finish?_group_of_not (dropped : P.callers e = false) (finished : g.finish? e o = some g') (n : Nat) :
    P.group g' n = P.group g n := by
  rw [Flight.Group.finish?] at finished
  split at finished
  · cases finished
    rw [group, Table.set_restrict_of_not _ dropped, group]
  · cases finished

theorem release?_group (kept : P.callers e = true)
    (named : ∀ execution, g.executions.get? e = some execution → execution.key = P.key) :
    (P.group g n).release? e = (g.release? e).map (P.group · n) := by
  rw [Flight.Group.release?, Flight.Group.release?, group, Table.get?_restrict _ kept]
  split
  · rename_i key o found
    cases named _ found
    dsimp only
    rw [Option.map_some, group, Table.set_restrict _ kept, Table.get?_restrict _ P.own_key]
    split
    · rw [Table.erase_restrict]
    · rfl
  · rfl

theorem release?_group_of_not (dropped : P.callers e = false)
    (named : ∀ execution, g.executions.get? e = some execution → P.keys execution.key = false)
    (released : g.release? e = some g') (n : Nat) : P.group g' n = P.group g n := by
  rw [Flight.Group.release?] at released
  split at released
  · rename_i key o found
    cases released
    have other := named _ found
    rw [group, Table.set_restrict_of_not _ dropped, group]
    split
    · rw [Table.erase_restrict_of_not _ other]
    · rfl
  · cases released

theorem outcome?_group (kept : P.callers e = true) (n : Nat) : (P.group g n).outcome? e = g.outcome? e := by
  rw [Flight.Group.outcome?, group, Table.get?_restrict _ kept, Flight.Group.outcome?]

theorem enter_group (kept : P.callers c = true) (n : Nat) :
    ∃ n', (P.group g n).enter c P.key = (P.group (g.enter c P.key).1 n', (g.enter c P.key).2) := by
  rw [Flight.Group.enter, Flight.Group.enter, group, Table.get?_restrict _ P.own_key]
  cases g.flights.get? P.key with
  | some e => exact ⟨n + 1, rfl⟩
  | none =>
      refine ⟨n, ?_⟩
      rw [group, Table.set_restrict _ P.own_key, Table.set_restrict _ kept]

end Group

section Flight

variable {f f' : Flight.State V} {context : CallContext}

theorem isCancelled_flight {id : TokenId} (kept : P.tokens id = true) :
    Tokens.isCancelled (P.flight f n).tokens id = f.tokens.isCancelled id :=
  Tokens.isCancelled_restrict _ kept

theorem check_flight (kept : P.tokens context.token = true) (now : Instant) :
    context.check (P.flight f n).tokens now = context.check f.tokens now := by
  rw [CallContext.check, CallContext.check, isCancelled_flight kept]

theorem done?_flight (kept : P.tokens context.token = true) (choice : Choice) (now : Instant) :
    context.done? choice (P.flight f n).tokens now = context.done? choice f.tokens now := by
  simp only [CallContext.done?, isCancelled_flight kept]

theorem setPhase_flight (kept : P.callers c = true) (call : Flight.Call V) (phase : Flight.CallPhase V) :
    (P.flight f n).setPhase c call phase = P.flight (f.setPhase c call phase) n := by
  rw [Flight.State.setPhase, Flight.State.setPhase, flight, flight, Table.set_restrict _ kept]

theorem setPhase_flight_of_not (dropped : P.callers c = false) (call : Flight.Call V)
    (phase : Flight.CallPhase V) (n : Nat) : P.flight (f.setPhase c call phase) n = P.flight f n := by
  rw [Flight.State.setPhase, flight, Table.set_restrict_of_not _ dropped, flight]

theorem token?_flight {id : TokenId} {parent : Option TokenId} (kept : P.tokens id = true)
    (family : ∀ p, parent = some p → P.tokens p = true)
    (made : f.token? id parent = some f') : (P.flight f n).token? id parent = some (P.flight f' n) := by
  obtain ⟨absent, known, rfl⟩ := Flight.State.token?_iff.mp made
  have parents : parent.all (P.flight f n).tokens.contains = true := by
    cases parent with
    | none => rfl
    | some p => exact (Table.contains_restrict _ (family p rfl)).trans known
  have cancelled : parent.any (Tokens.isCancelled (P.flight f n).tokens) = parent.any f.tokens.isCancelled := by
    cases parent with
    | none => rfl
    | some p => exact isCancelled_flight (family p rfl)
  refine Flight.State.token?_iff.mpr ⟨(Table.contains_restrict _ kept).trans absent, parents, ?_⟩
  rw [cancelled, flight, flight, Table.set_restrict _ kept]

theorem call?_flight (kept : P.callers c = true) (token : P.tokens context.token = true)
    (called : f.call? c P.key context = some f') (n : Nat) :
    ∃ n', (P.flight f n).call? c P.key context = some (P.flight f' n') := by
  have calls : (P.flight f n).calls.contains c = f.calls.contains c := Table.contains_restrict _ kept
  have tokens : (P.flight f n).tokens.contains context.token = f.tokens.contains context.token :=
    Table.contains_restrict _ token
  have checked : context.check (P.flight f n).tokens (P.flight f n).now = context.check f.tokens f.now :=
    check_flight token f.now
  rw [Flight.State.call?] at called
  rw [Flight.State.call?, calls, tokens, checked]
  split at called
  · cases called
  · rename_i admitted
    rw [if_neg admitted]
    cases done : context.check f.tokens f.now with
    | some err =>
        rw [done] at called
        cases called
        refine ⟨n, ?_⟩
        dsimp only
        rw [flight, flight, Table.set_restrict _ kept]
    | none =>
        rw [done] at called
        obtain rfl : { f with
            group := (f.group.enter c P.key).1
            calls := f.calls.set c ⟨P.key, context, .waiting (f.group.enter c P.key).2⟩ } = f' :=
          Option.some.inj called
        obtain ⟨n', entered⟩ := enter_group (g := f.group) kept n
        have entered : (P.flight f n).group.enter c P.key = _ := entered
        refine ⟨n', ?_⟩
        dsimp only
        rw [entered, flight, flight, Table.set_restrict _ kept]

theorem call?_flight_of_not (dropped : P.callers c = false) (other : P.keys key = false)
    (called : f.call? c key context = some f') (n : Nat) : P.flight f' n = P.flight f n := by
  obtain ⟨_, shape⟩ := Flight.State.call?_spec called
  rcases shape with ⟨err, _, rfl⟩ | ⟨_, ⟨e, _, rfl⟩ | ⟨_, rfl⟩⟩
  · rw [flight, Table.set_restrict_of_not _ dropped, flight]
  · rw [flight, Table.set_restrict_of_not _ dropped, flight]
    rfl
  · rw [flight, Table.set_restrict_of_not _ dropped, flight, group, Table.set_restrict_of_not _ dropped,
      Table.set_restrict_of_not _ other, group]

theorem receive?_flight (kept : P.callers c = true)
    (called : ∀ call, f.calls.get? c = some call → P.tokens call.context.token = true ∧
      ∀ e, call.phase = .waiting e → P.callers e = true)
    (received : f.receive? c = some f') : (P.flight f n).receive? c = some (P.flight f' n) := by
  obtain ⟨call, e, o, present, waiting, going, delivered, rfl⟩ := Flight.State.receive?_spec received
  obtain ⟨token, waits⟩ := called call present
  have present' : (P.flight f n).calls.get? c = some call := (Table.get?_restrict _ kept).trans present
  have going' : call.context.done? .cancellation (P.flight f n).tokens (P.flight f n).now = none :=
    (done?_flight token _ _).trans going
  have delivered' : (P.flight f n).group.outcome? e = some o :=
    (outcome?_group (waits e waiting) n).trans delivered
  obtain ⟨key, ended⟩ := Flight.Group.ended_of_outcome? delivered'
  rw [Flight.State.receive?_eq present' waiting going' ended, setPhase_flight kept]

theorem receive?_flight_of_not (dropped : P.callers c = false) (received : f.receive? c = some f') (n : Nat) :
    P.flight f' n = P.flight f n := by
  obtain ⟨call, e, o, _, _, _, _, rfl⟩ := Flight.State.receive?_spec received
  exact setPhase_flight_of_not dropped call _ n

theorem giveUp?_flight {choice : Choice} (kept : P.callers c = true)
    (called : ∀ call, f.calls.get? c = some call → P.tokens call.context.token = true)
    (given : f.giveUp? c choice = some f') : (P.flight f n).giveUp? c choice = some (P.flight f' n) := by
  obtain ⟨call, e, err, present, waiting, done, rfl⟩ := Flight.State.giveUp?_spec given
  have present' : (P.flight f n).calls.get? c = some call := (Table.get?_restrict _ kept).trans present
  have done' : call.context.done? choice (P.flight f n).tokens (P.flight f n).now = some err :=
    (done?_flight (called call present) _ _).trans done
  rw [Flight.State.giveUp?_eq present' waiting done', setPhase_flight kept]

theorem giveUp?_flight_of_not {choice : Choice} (dropped : P.callers c = false)
    (given : f.giveUp? c choice = some f') (n : Nat) : P.flight f' n = P.flight f n := by
  obtain ⟨call, e, err, _, _, _, rfl⟩ := Flight.State.giveUp?_spec given
  exact setPhase_flight_of_not dropped call _ n

theorem drop?_flight (kept : P.callers c = true) (left : f.drop? c = some f') :
    (P.flight f n).drop? c = some (P.flight f' n) := by
  obtain ⟨call, e, present, waiting, rfl⟩ := Flight.State.drop?_spec left
  have present' : (P.flight f n).calls.get? c = some call := (Table.get?_restrict _ kept).trans present
  rw [Flight.State.drop?_eq present' waiting, setPhase_flight kept]

theorem drop?_flight_of_not (dropped : P.callers c = false) (left : f.drop? c = some f') (n : Nat) :
    P.flight f' n = P.flight f n := by
  obtain ⟨call, e, _, _, rfl⟩ := Flight.State.drop?_spec left
  exact setPhase_flight_of_not dropped call _ n

end Flight

section State

variable {s s' : State} {kind : PayloadKind} {caller : Caller} {loader : Loader} {p : Payload}

theorem setCaller_state (kept : P.callers c = true) (caller : Caller) (phase : CallerPhase) :
    (P.state s n counters).setCaller c caller phase = P.state (s.setCaller c caller phase) n counters := by
  rw [State.setCaller, State.setCaller, state, state, Table.set_restrict _ kept]

theorem setCaller_state_of_not (dropped : P.callers c = false) (caller : Caller) (phase : CallerPhase) :
    P.state (s.setCaller c caller phase) n counters = P.state s n counters := by
  rw [State.setCaller, state, Table.set_restrict_of_not _ dropped, state]

theorem setLoader_state (kept : P.callers e = true) (loader : Loader) (phase : LoaderPhase) :
    (P.state s n counters).setLoader e loader phase = P.state (s.setLoader e loader phase) n counters := by
  rw [State.setLoader, State.setLoader, state, state, Table.set_restrict _ kept]

theorem setLoader_state_of_not (dropped : P.callers e = false) (loader : Loader) (phase : LoaderPhase) :
    P.state (s.setLoader e loader phase) n counters = P.state s n counters := by
  rw [State.setLoader, state, Table.set_restrict_of_not _ dropped, state]

theorem find_state (s : State) (n : Nat) (counters : Counters) (kind : PayloadKind) (read : Read) :
    ∃ counters', (P.state s n counters).find P.key kind read =
      (P.state (s.find P.key kind read).1 n counters', (s.find P.key kind read).2) := by
  cases read with
  | actual =>
      have found : (P.state s n counters).store.get (P.state s n counters).now P.key =
          ((s.store.get s.now P.key).1.restrict P.keys, (s.store.get s.now P.key).2) :=
        MemoryStore.get_restrict s.store P.own_key
      refine ⟨counters, ?_⟩
      rw [State.find, found, State.find]
      rfl
  | failed => exact ⟨_, rfl⟩
  | answered value => exact ⟨counters, rfl⟩

theorem find_state_of_not (other : P.keys key = false) (kind : PayloadKind) (read : Read) :
    P.state (s.find key kind read).1 n counters = P.state s n counters := by
  cases read with
  | actual =>
      rw [State.find, state, state]
      dsimp only
      rw [MemoryStore.get_restrict_of_not _ other]
  | failed => rfl
  | answered value => rfl

theorem answer_state (kept : P.callers c = true) (caller : Caller) (payload : Option Payload) :
    ∃ counters', (P.state s n counters).answer c caller payload =
      P.state (s.answer c caller payload) n counters' := by
  cases payload with
  | none =>
      refine ⟨{ counters with misses := counters.misses + 1 }, ?_⟩
      rw [State.answer, setCaller_state kept]
      rfl
  | some p =>
      refine ⟨{ counters with hits := counters.hits + 1 }, ?_⟩
      rw [State.answer, setCaller_state kept]
      rfl

theorem answer_state_of_not (dropped : P.callers c = false) (caller : Caller) (payload : Option Payload) :
    P.state (s.answer c caller payload) n counters = P.state s n counters := by
  cases payload with
  | none => exact setCaller_state_of_not (s := s) dropped caller .missed
  | some p => exact setCaller_state_of_not (s := s) dropped caller (.returned (.ok p))

theorem attach_state (kept : P.callers c = true) (caller : Caller) (flight : Flight.State Payload) (n' : Nat) :
    (P.state s n counters).attach c caller (P.flight flight n') =
      P.state (s.attach c caller flight) n' counters := by
  have own : (P.flight flight n').group.executions.get? c = flight.group.executions.get? c :=
    Table.get?_restrict _ kept
  rw [State.attach, setCaller_state kept, own, State.attach]
  cases (flight.group.executions.get? c).isSome with
  | true =>
      rw [if_pos rfl, if_pos rfl, state, state, state, Table.set_restrict _ kept]
  | false => rfl

theorem attach_state_of_not (dropped : P.callers c = false) (caller : Caller) {flight : Flight.State Payload}
    (same : P.flight flight n = P.flight s.flight n) :
    P.state (s.attach c caller flight) n counters = P.state s n counters := by
  have callers : (s.callers.set c { caller with phase := .flying }).restrict P.callers =
      s.callers.restrict P.callers := Table.set_restrict_of_not _ dropped _
  have loaders : (s.attach c caller flight).loaders.restrict P.callers = s.loaders.restrict P.callers := by
    rw [State.attach]
    dsimp only
    split
    · exact Table.set_restrict_of_not _ dropped _
    · rfl
  rw [state, loaders, state]
  simp only [State.attach, State.setCaller, callers, same]

theorem conclude?_state (kept : P.callers e = true) (loader : Loader) (o : Outcome Payload) :
    (P.state s n counters).conclude? e loader o = (s.conclude? e loader o).map (P.state · n counters) := by
  have finish : (P.state s n counters).flight.group.finish? e o =
      (s.flight.group.finish? e o).map (P.group · n) :=
    finish?_group kept o
  rw [State.conclude?, State.conclude?, finish, setLoader_state kept, Option.map_map, Option.map_map]
  rfl

theorem conclude?_state_of_not (dropped : P.callers e = false) {o : Outcome Payload}
    (stepped : s.conclude? e loader o = some s') : P.state s' n counters = P.state s n counters := by
  obtain ⟨group, finished, rfl⟩ := Option.map_eq_some_iff.mp stepped
  have same := finish?_group_of_not dropped finished n
  rw [← setLoader_state_of_not (s := s) dropped loader .done, state, flight, same]
  rfl

theorem follows_state (kept : P.callers e = true) : State.Follows (P.state · n counters) e where
  advance _ := setLoader_state kept
  conclude _ := conclude?_state kept

theorem reread?_state_of_not (dropped : P.callers e = false) {payload : Option Payload}
    (stepped : s.reread? e loader payload = some s') : P.state s' n counters = P.state s n counters := by
  cases payload with
  | none =>
      cases stepped
      exact setLoader_state_of_not dropped loader .missed
  | some p => exact conclude?_state_of_not dropped stepped

theorem end?_state_of_not (dropped : P.callers e = false) {outcome : LoadOutcome}
    (stepped : s.end? e loader key outcome = some s') : P.state s' n counters = P.state s n counters := by
  cases outcome with
  | loaded p =>
      rw [State.end?] at stepped
      split at stepped
      · cases stepped
      · split at stepped
        · exact conclude?_state_of_not dropped stepped
        · cases stepped
          exact setLoader_state_of_not dropped loader (.writing p)
  | failed err => exact conclude?_state_of_not dropped stepped
  | panicked message => exact conclude?_state_of_not dropped stepped

theorem keep?_state (s : State) (n : Nat) (counters : Counters) (kept : P.callers e = true)
    (loader : Loader) (p : Payload) (write : Write) :
    ∃ counters', (P.state s n counters).keep? e loader P.key p write =
      (s.keep? e loader P.key p write).map (P.state · n counters') := by
  cases write with
  | failed =>
      let counted (counters : Counters) : Counters := { counters with writeErrors := counters.writeErrors + 1 }
      exact ⟨counted counters, conclude?_state (s := { s with counters := counted s.counters }) kept loader _⟩
  | accepted => exact ⟨counters, conclude?_state kept loader _⟩
  | kept =>
      have written : (P.state s n counters).store.set? (P.state s n counters).now P.key p.encode
            (ValueStore.lifetime (P.state s n counters).ttl) =
          (s.store.set? s.now P.key p.encode (ValueStore.lifetime s.ttl)).map (·.restrict P.keys) :=
        MemoryStore.set?_restrict s.store P.own_key _ _
      refine ⟨counters, ?_⟩
      rw [State.keep?, written, State.keep?]
      cases s.store.set? s.now P.key p.encode (ValueStore.lifetime s.ttl) with
      | none => exact conclude?_state kept loader _
      | some store => exact conclude?_state (s := { s with store }) kept loader _

theorem keep?_state_of_not (dropped : P.callers e = false) (other : P.keys key = false) {write : Write}
    (stepped : s.keep? e loader key p write = some s') : P.state s' n counters = P.state s n counters := by
  cases write with
  | failed =>
      let counted : Counters := { s.counters with writeErrors := s.counters.writeErrors + 1 }
      exact conclude?_state_of_not (s := { s with counters := counted }) dropped stepped
  | accepted => exact conclude?_state_of_not dropped stepped
  | kept =>
      rw [State.keep?] at stepped
      split at stepped
      · rename_i store written
        rw [conclude?_state_of_not (s := { s with store }) dropped stepped, state,
          MemoryStore.set?_restrict_of_not other written, state]
      · exact conclude?_state_of_not dropped stepped

end State

end Part

end Fetch

end PlaceGateway
