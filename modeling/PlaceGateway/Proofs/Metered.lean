import Mathlib.Algebra.BigOperators.Ring.Finset
import PlaceGateway.Metered
import PlaceGateway.Proofs.Series
/-! The metrics of calls balance: at every moment each call that was started is in flight, was counted as it ended, or
was given up. -/

namespace PlaceGateway.Metered

namespace Phase

def isRunning : Phase → Bool
  | running => true
  | _ => false

def result? : Phase → Option (Except CallError Payload)
  | completed result => some result
  | _ => none

def status? (phase : Phase) : Option String := phase.result?.map statusName

def isCompleted (phase : Phase) : Bool := phase.status?.isSome

end Phase

/-- What is counted is what there is, where `count` tells how many calls are in a phase of a kind. -/
structure Tally.Counts (t : Tally) (count : (Phase → Bool) → Nat) : Prop where
  inFlight : t.inFlight.getD 0 = count Phase.isRunning
  durations : t.durations = count Phase.isCompleted
  requests : ∀ status, (t.requests.get? status).getD 0 = count fun phase => phase.status? = some status
  distinct : t.requests.keys.Nodup

namespace Tally.Counts

variable {t : Tally} {count next : (Phase → Bool) → Nat}

theorem congr (counts : t.Counts count) (same : ∀ kind, next kind = count kind) : t.Counts next where
  inFlight := by rw [same, counts.inFlight]
  durations := by rw [same, counts.durations]
  requests status := by rw [same, counts.requests]
  distinct := counts.distinct

theorem start (counts : t.Counts count) (grows : ∀ kind, next kind = count kind + (kind .running).toNat) :
    t.enter.Counts next where
  inFlight := by
    have running : next Phase.isRunning = count Phase.isRunning + 1 := grows _
    rw [enter, Option.getD_some, counts.inFlight, running]
    rfl
  durations := by
    have completed : next Phase.isCompleted = count Phase.isCompleted := grows Phase.isCompleted
    rw [completed, ← counts.durations, enter]
  requests status := by
    rw [grows, ← counts.requests status]
    rfl
  distinct := counts.distinct

theorem inFlight_leave (counts : t.Counts count) (shrinks : next Phase.isRunning + 1 = count Phase.isRunning) :
    t.leave.inFlight.getD 0 = next Phase.isRunning := by
  rw [leave, Option.getD_some, counts.inFlight]
  omega

theorem abandon (counts : t.Counts count)
    (moves : ∀ kind, next kind + (kind .running).toNat = count kind + (kind .abandoned).toNat) :
    t.leave.Counts next where
  inFlight := counts.inFlight_leave (moves _)
  durations := by
    have completed : next Phase.isCompleted = count Phase.isCompleted := moves Phase.isCompleted
    rw [completed, ← counts.durations, leave]
  requests status := by
    have unchanged : next (fun phase => phase.status? = some status) = count fun phase => phase.status? = some status :=
      moves fun phase => phase.status? = some status
    rw [unchanged, ← counts.requests status, leave]
  distinct := counts.distinct

theorem complete (counts : t.Counts count) (result : Except CallError Payload)
    (moves : ∀ kind, next kind + (kind .running).toNat = count kind + (kind (.completed result)).toNat) :
    (t.record (statusName result)).leave.Counts next where
  inFlight := (counts.congr fun _ => rfl).inFlight_leave (moves Phase.isRunning)
  durations := by
    have completed : next Phase.isCompleted = count Phase.isCompleted + 1 := moves Phase.isCompleted
    rw [completed, ← counts.durations, leave, record]
  requests status := by
    have completed : next (fun phase => phase.status? = some status) =
        count (fun phase => phase.status? = some status) + (decide (some (statusName result) = some status)).toNat :=
      moves fun phase => phase.status? = some status
    rw [completed, ← counts.requests status, leave, record, Table.get?_set]
    by_cases same : status = statusName result
    · simp [same]
    · simp [same, Ne.symm same]
  distinct := Table.keys_set_nodup _ _ _ counts.distinct

end Tally.Counts

def callsOf (calls : Table Call) (o : Operation) (kind : Phase → Bool) : Nat :=
  calls.count fun call => call.operation = o && kind call.phase

namespace State

variable {s s' : State} {id : CallId} {call : Call} {event : Event} {trace : List Event}

theorem get?_of_running? (running : s.running? id = some call) :
    s.calls.get? id = some ⟨call.operation, .running⟩ := by
  rw [running?] at running
  split at running
  · rename_i present
    cases running
    exact present
  · cases running

theorem result?_eq (s : State) (id : CallId) : s.result? id = (s.calls.get? id).bind (·.phase.result?) := by
  rw [result?]
  rcases s.calls.get? id with _ | ⟨operation, _ | _ | _⟩ <;> rfl

theorem callsOf_start (fresh : s.calls.get? id = none) (operation o : Operation) (kind : Phase → Bool) :
    callsOf (s.calls.set id ⟨operation, .running⟩) o kind =
      callsOf s.calls o kind + (operation = o && kind .running).toNat := by
  have counted := Table.count_set (fun call : Call => call.operation = o && kind call.phase) s.calls id
    ⟨operation, .running⟩
  rw [fresh] at counted
  exact counted

theorem callsOf_setPhase (running : s.running? id = some call) (phase : Phase) (o : Operation) (kind : Phase → Bool) :
    callsOf (s.setPhase id call phase).calls o kind + (call.operation = o && kind .running).toNat =
      callsOf s.calls o kind + (call.operation = o && kind phase).toNat := by
  have counted := Table.count_set (fun call : Call => call.operation = o && kind call.phase) s.calls id
    { call with phase }
  rw [get?_of_running? running] at counted
  exact counted

def Balanced (s : State) : Prop := ∀ o, (s.tally o).Counts (callsOf s.calls o)

theorem balanced_initial : initial.Balanced := fun _ => ⟨rfl, rfl, fun _ => rfl, List.nodup_nil⟩

theorem Balanced.update (balanced : s.Balanced) {operation : Operation} {change : Tally → Tally} {calls : Table Call}
    (others : ∀ o ≠ operation, ∀ kind, callsOf calls o kind = callsOf s.calls o kind)
    (own : (s.tally operation).Counts (callsOf s.calls operation) →
      (change (s.tally operation)).Counts (callsOf calls operation)) :
    Balanced { s.update operation change with calls } := by
  intro o
  change Tally.Counts (if o = operation then change (s.tally o) else s.tally o) (callsOf calls o)
  by_cases same : o = operation
  · subst same
    rw [if_pos rfl]
    exact own (balanced o)
  · rw [if_neg same]
    exact (balanced o).congr (others o same)

theorem Balanced.step (balanced : s.Balanced) (stepped : s.step event = some s') : s'.Balanced := by
  cases event with
  | start id operation =>
      rw [State.step] at stepped
      split at stepped
      · cases stepped
      · rename_i new
        have fresh := Table.contains_eq_false_iff.mp (Bool.not_eq_true _ ▸ new)
        cases stepped
        have grows := callsOf_start fresh operation
        refine balanced.update (fun o differs kind => ?_) fun counts => counts.start fun kind => ?_
        · simpa [Ne.symm differs] using grows o kind
        · simpa using grows operation kind
  | complete id result =>
      rcases Option.map_eq_some_iff.mp stepped with ⟨call, running, rfl⟩
      have moves := callsOf_setPhase running (.completed result)
      change Balanced { s.update call.operation (fun t => (t.record (statusName result)).leave) with
        calls := (s.setPhase id call (.completed result)).calls }
      refine balanced.update (fun o differs kind => ?_) fun counts => ?_
      · simpa [Ne.symm differs] using moves o kind
      · exact counts.complete result fun kind => by simpa using moves call.operation kind
  | abandon id =>
      rcases Option.map_eq_some_iff.mp stepped with ⟨call, running, rfl⟩
      have moves := callsOf_setPhase running .abandoned
      refine balanced.update (fun o differs kind => ?_) fun counts => ?_
      · simpa [Ne.symm differs] using moves o kind
      · exact counts.abandon fun kind => by simpa using moves call.operation kind

theorem run_induction {P : List Event → State → Prop} (start : P [] initial)
    (step : ∀ {trace s event s'}, P trace s → s.step event = some s' → P (trace ++ [event]) s')
    (run : initial.run trace = some s) : P trace s := by
  -- The induction is on what is left of the run, with any state that has come so far.
  have onward {rest front : List Event} {s₀ : State} (before : P front s₀) (run : s₀.run rest = some s) :
      P (front ++ rest) s := by
    induction rest generalizing front s₀ with
    | nil =>
        cases run
        rwa [List.append_nil]
    | cons event rest ih =>
        rw [State.run, Option.bind_eq_some_iff] at run
        rcases run with ⟨next, stepped, run⟩
        rw [List.append_cons]
        exact ih (step before stepped) run
  exact onward start run

theorem balanced_of_run (run : initial.run trace = some s) : s.Balanced := by
  apply run_induction (P := fun _ s => s.Balanced) balanced_initial _ run
  exact fun balanced stepped => balanced.step stepped

end State

def Event.started? : Event → Option (CallId × Operation)
  | start id operation => some (id, operation)
  | _ => none

def Event.end? (id : CallId) : Event → Option Phase
  | complete other result => if other = id then some (.completed result) else none
  | abandon other => if other = id then some .abandoned else none
  | _ => none

def started (trace : List Event) : List (CallId × Operation) := trace.filterMap Event.started?

def ended (trace : List Event) (id : CallId) : Option Phase := trace.findSome? (Event.end? id)

def phaseIn (trace : List Event) (id : CallId) : Phase := (ended trace id).getD .running

/-- How many calls of the operation a run has started and leaves in a phase of a kind. -/
def startedIn (trace : List Event) (o : Operation) (kind : Phase → Bool) : Nat :=
  (started trace).countP fun call => call.2 = o && kind (phaseIn trace call.1)

/-- The calls of a state are those that the run tells of. -/
structure Follows (trace : List Event) (calls : Table Call) : Prop where
  told : calls.entries = (started trace).map fun call => (call.1, ⟨call.2, phaseIn trace call.1⟩)
  distinct : calls.keys.Nodup
  unstarted : ∀ id, calls.get? id = none → ended trace id = none
  results : ∀ id result, (calls.get? id).bind (·.phase.result?) = some result ↔ .complete id result ∈ trace

section Traces

variable {trace : List Event} {event : Event} {id : CallId} {phase : Phase} {calls : Table Call} {s s' : State}
  {o : Operation}

theorem ended_concat (trace : List Event) (event : Event) (id : CallId) :
    ended (trace ++ [event]) id = (ended trace id).or (event.end? id) := by
  rw [ended, List.findSome?_append, ended]
  cases ends : event.end? id <;> simp [ends]

theorem ended_ne_running : ended trace id ≠ some .running := by
  intro running
  rcases List.exists_of_findSome?_eq_some running with ⟨event, _, ends⟩
  cases event with
  | start => cases ends
  | complete other result =>
      rw [Event.end?] at ends
      split at ends <;> cases ends
  | abandon other =>
      rw [Event.end?] at ends
      split at ends <;> cases ends

theorem started_concat (trace : List Event) (event : Event) :
    started (trace ++ [event]) = started trace ++ event.started?.toList := by
  rw [started, List.filterMap_append, started]
  cases starts : event.started? <;> simp [starts]

namespace Follows

theorem keys_eq (follows : Follows trace calls) : calls.keys = (started trace).map Prod.fst := by
  rw [Table.keys, follows.told, List.map_map]
  rfl

theorem callsOf_eq (follows : Follows trace calls) (o : Operation) (kind : Phase → Bool) :
    callsOf calls o kind = startedIn trace o kind := by
  rw [callsOf, Table.count, follows.told, List.countP_map]
  rfl

theorem start (follows : Follows trace calls) (fresh : calls.get? id = none) (o : Operation) :
    Follows (trace ++ [.start id o]) (calls.set id ⟨o, .running⟩) where
  told := by
    have later (other : CallId) : ended (trace ++ [.start id o]) other = ended trace other :=
      (ended_concat trace _ other).trans Option.or_none
    -- A new call stands behind those there are, as its start stands at the end of the trace.
    have absent : id ∉ calls.entries.map Prod.fst := by
      intro member
      rcases Table.exists_lookup id calls.entries member with ⟨call, present⟩
      rw [Table.get?, present] at fresh
      cases fresh
    have running : phaseIn (trace ++ [.start id o]) id = .running := by
      rw [phaseIn, later, follows.unstarted id fresh, Option.getD_none]
    rw [Table.set, Table.setEntry_of_notMem _ _ _ absent, follows.told, started_concat, List.map_append]
    simp only [phaseIn, later] at running ⊢
    simp [Event.started?, running]
  distinct := Table.keys_set_nodup _ _ _ follows.distinct
  unstarted other absent := by
    have before := (Table.get?_set_eq_none absent).2
    rw [ended_concat, follows.unstarted other before]
    rfl
  results other result := by
    rw [List.mem_append, ← follows.results other result, Table.get?_set]
    by_cases same : other = id
    · simp [same, fresh, Phase.result?]
    · simp [same]

theorem finish (follows : Follows trace calls) (running : calls.get? id = some ⟨o, .running⟩)
    (starts : event.started? = none) (ends : ∀ other, event.end? other = if id = other then some phase else none)
    (completes : ∀ other result, event = .complete other result ↔ other = id ∧ phase.result? = some result) :
    Follows (trace ++ [event]) (calls.set id ⟨o, phase⟩) where
  told := by
    have later : started (trace ++ [event]) = started trace := by
      rw [started_concat, starts]
      exact List.append_nil _
    have present := (Table.get?_eq_some_iff calls follows.distinct).mp running
    rw [follows.told, List.mem_map] at present
    rcases present with ⟨⟨own, operation⟩, member, is⟩
    rcases Prod.mk.inj is with ⟨named, calls_⟩
    rcases Call.mk.inj calls_ with ⟨same, runs⟩
    cases named
    cases same
    have unended : ended trace own = none := by
      cases ends : ended trace own with
      | none => rfl
      | some phase =>
          rw [phaseIn, ends, Option.getD_some] at runs
          exact absurd (runs ▸ ends) ended_ne_running
    have distinct := follows.distinct
    rw [follows.keys_eq] at distinct
    rw [Table.set, follows.told, later]
    -- Names of calls are distinct, so the one entry that is set is that of the one call that ends.
    refine Table.setEntry_map (started trace) distinct (List.mem_map_of_mem member) ?_ ?_
    · intro call others named
      have one : call = (own, operation) := List.inj_on_of_nodup_map distinct others member named
      rw [one, phaseIn, ended_concat, unended, ends, if_pos rfl]
      rfl
    · intro call _ differs
      rw [phaseIn, ended_concat, ends, if_neg (Ne.symm differs), Option.or_none, phaseIn]
  distinct := Table.keys_set_nodup _ _ _ follows.distinct
  unstarted other absent := by
    obtain ⟨differs, before⟩ := Table.get?_set_eq_none absent
    rw [ended_concat, follows.unstarted other before, ends, if_neg (Ne.symm differs)]
    rfl
  results other result := by
    rw [List.mem_append, ← follows.results other result, Table.get?_set, List.mem_singleton, eq_comm (b := event),
      completes]
    by_cases same : other = id
    · simp [same, running, Phase.result?]
    · simp [same]

theorem step (follows : Follows trace s.calls) (stepped : s.step event = some s') :
    Follows (trace ++ [event]) s'.calls := by
  cases event with
  | start id operation =>
      rw [State.step] at stepped
      split at stepped
      · cases stepped
      · rename_i new
        have fresh := Table.contains_eq_false_iff.mp (Bool.not_eq_true _ ▸ new)
        cases stepped
        exact follows.start fresh operation
  | complete id result =>
      rcases Option.map_eq_some_iff.mp stepped with ⟨call, running, rfl⟩
      refine follows.finish (State.get?_of_running? running) rfl (fun _ => rfl) fun other own => ?_
      simp [Phase.result?, eq_comm]
  | abandon id =>
      rcases Option.map_eq_some_iff.mp stepped with ⟨call, running, rfl⟩
      refine follows.finish (State.get?_of_running? running) rfl (fun _ => rfl) fun other own => ?_
      simp [Phase.result?]

theorem initial : Follows [] State.initial.calls :=
  ⟨rfl, List.nodup_nil, fun _ _ => rfl, fun _ _ => by simp [State.initial]⟩

end Follows

theorem follows_of_run (run : State.initial.run trace = some s) : Follows trace s.calls := by
  apply State.run_induction (P := fun trace s => Follows trace s.calls) Follows.initial _ run
  exact fun follows stepped => follows.step stepped

end Traces

def statuses : List String :=
  ["ok", "upstream_error", "invalid_request", "empty_payload", "internal_error", "cancelled", "deadline_exceeded",
    "configuration_error"]

theorem statusName_mem (result : Except CallError Payload) : statusName result ∈ statuses := by
  cases result with
  | ok p => exact List.mem_cons_self
  | error err => cases err <;> simp [statusName, CallError.kind, statuses]

theorem sum_countP {α : Type} (name? : α → Option String) {names : List String} (distinct : names.Nodup)
    (known : ∀ a name, name? a = some name → name ∈ names) (p : α → Bool) (l : List α) :
    (names.map fun name => l.countP fun a => p a && name? a = some name).sum =
      l.countP fun a => p a && (name? a).isSome := by
  induction l with
  | nil => simp
  | cons a l ih =>
      simp only [List.countP_cons, List.sum_map_add, ih]
      cases named : name? a with
      | none => simp
      | some own =>
          have single := List.sum_map_eq_nsmul_single (l := names) own
            (fun name => if (p a && decide (own = name)) = true then 1 else 0) (by simp +contextual [eq_comm])
          rw [List.count_eq_one_of_mem distinct (known a own named)] at single
          simpa using single

theorem sum_startedIn (trace : List Event) (o : Operation) :
    (statuses.map fun status => startedIn trace o fun phase => phase.status? = some status).sum =
      startedIn trace o Phase.isCompleted := by
  have distinct : statuses.Nodup := by decide +kernel
  have known (call : CallId × Operation) (status : String) (counted : (phaseIn trace call.1).status? = some status) :
      status ∈ statuses := by
    rcases Option.map_eq_some_iff.mp counted with ⟨result, _, rfl⟩
    exact statusName_mem result
  exact sum_countP (fun call => (phaseIn trace call.1).status?) distinct known (fun call => call.2 = o) (started trace)

def State.metric (s : State) (name : String) : Int := Series.value (Series.ofCalls s) name

variable {trace : List Event} {s : State}

/-- At every moment the calls in flight are those started that have not ended, and each completed call has been
counted once, under its status, and timed once. Calls return what they completed with. -/
theorem calls_balance (run : State.initial.run trace = some s) :
    (∀ o, s.metric (Series.inFlight o) = startedIn trace o Phase.isRunning ∧
      (statuses.map fun status => s.metric (Series.requests o status)).sum = s.metric (Series.durations o) ∧
      s.metric (Series.durations o) = startedIn trace o Phase.isCompleted ∧
      ∀ status, s.metric (Series.requests o status) = startedIn trace o fun phase => phase.status? = some status) ∧
    ∀ id result, s.result? id = some result ↔ .complete id result ∈ trace := by
  have balanced := State.balanced_of_run run
  have follows := follows_of_run run
  have requests (o : Operation) (status : String) : s.metric (Series.requests o status) =
      startedIn trace o fun phase => phase.status? = some status := by
    rw [State.metric, Series.value_requests s (balanced o).distinct, (balanced o).requests, follows.callsOf_eq]
  have durations (o : Operation) : s.metric (Series.durations o) = startedIn trace o Phase.isCompleted := by
    rw [State.metric, Series.value_durations s (balanced o).distinct, (balanced o).durations, follows.callsOf_eq]
  refine ⟨fun o => ⟨?_, ?_, durations o, requests o⟩, fun id result => ?_⟩
  · rw [State.metric, Series.value_inFlight, (balanced o).inFlight, follows.callsOf_eq]
  · rw [durations, ← sum_startedIn, Nat.cast_list_sum, List.map_map]
    exact congrArg List.sum (List.map_congr_left fun status _ => requests o status)
  · rw [← follows.results id result, State.result?_eq]

def overlap : List Event :=
  [.start "a" .searchText, .start "b" .searchText, .start "c" .getPlace, .complete "b" (.error .cancelled),
    .start "d" .searchText, .abandon "c", .complete "a" (.ok (.search ⟨[]⟩))]

theorem calls_balance_of_overlap : ∃ s, State.initial.run overlap = some s ∧
    s.metric (Series.inFlight .searchText) = 1 ∧ s.metric (Series.durations .searchText) = 2 ∧
    s.metric (Series.requests .searchText "cancelled") = 1 ∧ s.metric (Series.inFlight .getPlace) = 0 ∧
    s.metric (Series.durations .getPlace) = 0 ∧ s.result? "a" = some (.ok (.search ⟨[]⟩)) := by
  let s := (State.initial.run overlap).get (by decide +kernel)
  have run : State.initial.run overlap = some s := (Option.some_get _).symm
  rcases calls_balance run with ⟨balance, results⟩
  rcases balance .searchText with ⟨searching, _, searched, statuses⟩
  rcases balance .getPlace with ⟨getting, _, got, _⟩
  have returned : s.result? "a" = some (.ok (.search ⟨[]⟩)) := (results "a" _).mpr (by simp [overlap])
  refine ⟨s, run, searching.trans ?_, searched.trans ?_, (statuses "cancelled").trans ?_, getting.trans ?_,
    got.trans ?_, returned⟩
  all_goals decide +kernel

end PlaceGateway.Metered
