import PlaceGateway.Proofs.Fetch.History
/-! A backend that answers anything, or fails, causes no error. It can spare a caller a fetch, and that
is all. -/

namespace PlaceGateway.Fetch

open Flight (Call CallerId CallPhase Execution Outcome Phase)

/-- The backend answers a read with an error or with anything at all, and keeps no write. -/
def Event.IsAdversarial (event : Event) : Prop := event.Meets (· ≠ .actual) (· ≠ .kept)

/-- What the callers of a key can blame on an execution. -/
inductive Fault (s : State) (trace : List Event) (e key : String) (kind : PayloadKind) :
    CallError → Prop where
  | failed {err : CallError} (ended : Event.finish e (.failed err) ∈ trace) : Fault s trace e key kind err
  | empty {p : Payload} (ended : Event.finish e (.loaded p) ∈ trace) (empty : p.isEmpty = true) :
      Fault s trace e key kind (.emptyPayload key)
  | panicked {message : String} (ended : Event.finish e (.panicked message) ∈ trace) :
      Fault s trace e key kind (.internal (.loaderPanicked message))
  | mismatch {p : Payload} (concludes : s.Concludes e key (.ok p)) (other : p.kind ≠ kind) :
      Fault s trace e key kind (.internal .unexpectedKind)

variable {ttl : Option Duration} {Allowed : Event → Prop} {Asks : String → PayloadKind → Prop}
  {trace more : List Event} {event : Event} {c e e' key : String} {kind : PayloadKind}
  {s s' : State} {o : Outcome Payload}

theorem Reached.fault_of_concludes (reached : Reached ttl Event.IsAdversarial trace s) {err : CallError}
    (concludes : s.Concludes e key (.error err)) (kind : PayloadKind) :
    Fault s trace e key kind err := by
  rcases reached.failure_of_concludes concludes with ⟨outcome, ended, fails⟩ | ⟨_, _, _, kept, _⟩
  · rcases LoadOutcome.of_result_error fails with rfl | ⟨p, rfl, empty, rfl⟩ | ⟨message, rfl, rfl⟩
    · exact .failed ended
    · exact .empty ended empty
    · exact .panicked ended
  · exact absurd rfl (reached.allowed _ kept)

theorem Reached.fault_of_result (reached : Reached ttl Event.IsAdversarial trace s) {caller : Caller}
    {err : CallError} (present : s.callers.get? c = some caller)
    (returns : s.result? c = some (.error err)) :
    caller.context.Causes s.flight.tokens s.now err ∨
      ∃ e, Joined ttl trace c e ∧ s.HasKey e caller.key ∧
        Fault s trace e caller.key caller.kind err := by
  rcases reached.origin_of_error present returns with causes | ⟨e, o, joined, ended, typed⟩
  · exact .inl causes
  · refine .inr ⟨e, joined, ⟨_, ended⟩, ?_⟩
    cases o with
    | ok p =>
        rw [State.ofKind] at typed
        split at typed
        · cases typed
        · rename_i other
          cases typed
          exact .mismatch ⟨_, ended, rfl⟩ other
    | error err =>
        cases typed
        exact reached.fault_of_concludes ⟨_, ended, rfl⟩ caller.kind

theorem Reached.starts_le_one (reached : Reached ttl Allowed trace s) (e : CallerId) :
    starts trace e ≤ 1 := by
  obtain ⟨sound, _⟩ := reached.isSound
  have told := reached.told
  cases present : s.loads.loaders.get? e with
  | none =>
      rw [(told.silent e present).1]
      exact Nat.zero_le 1
  | some loader =>
      obtain ⟨kind, own⟩ := loader
      obtain ⟨⟨key, phase⟩, found⟩ := sound.known e _ present
      cases told.story e kind own key phase present found with
      | spawned started _ => exact started ▸ Nat.zero_le 1
      | missed started _ => exact started ▸ Nat.zero_le 1
      | found started _ _ _ _ => exact started ▸ Nat.zero_le 1
      | loading started _ => exact Nat.le_of_eq started
      | writing started _ _ _ => exact Nat.le_of_eq started
      | loaded started _ _ _ => exact Nat.le_of_eq started
      | overflow started _ _ _ => exact Nat.le_of_eq started

/-- No read of the loader finds a payload of the kind. -/
def Unread (ttl : Option Duration) (trace : List Event) (e key : String) (kind : PayloadKind) : Prop :=
  ∀ s read, Happened ttl trace s (.recheck e read) → read.payload? s.store s.now key kind = none

theorem Reached.loaded_of_unread (reached : Reached ttl Event.IsAdversarial trace s)
    {loader : LoaderPhase} (present : s.loaders.get? e = some ⟨kind, loader⟩)
    (unread : Unread ttl trace e key kind) (concludes : s.Concludes e key o) :
    starts trace e = 1 ∧ (∀ p, o = .ok p → p.kind = kind) ∧
      ∃ result, ends trace e = [result] ∧ o = result.result key := by
  obtain ⟨phase, found, told⟩ := concludes
  cases reached.told.story e kind loader key phase present found with
  | @found s₀ read p _ _ _ happened value _ =>
      rw [unread s₀ read happened] at value
      cases value
  | @loaded result _ started ended own outcome =>
      rw [outcome] at told
      cases told
      exact ⟨started, own, result, ended, rfl⟩
  | overflow _ _ kept _ => exact absurd rfl (reached.allowed _ kept)
  | _ => cases told

/-- The execution ends when some of the events come, in order. -/
def State.Completes (s : State) (e key : String) (events : List Event) : Prop :=
  ∃ more s' o, more.Sublist events ∧ s.run more = some s' ∧
    s'.flight.group.executions.get? e = some ⟨key, .ended o⟩

namespace State

variable {events : List Event} {w : Write}

theorem Completes.step (completes : s'.Completes e key events) (stepped : s.step event = some s') :
    s.Completes e key (event :: events) := by
  obtain ⟨more, last, o, part, run, ended⟩ := completes
  refine ⟨event :: more, last, o, part.cons_cons event, ?_, ended⟩
  rw [State.run, stepped]
  exact run

theorem Completes.skip (completes : s.Completes e key events) (event : Event) :
    s.Completes e key (event :: events) := by
  obtain ⟨more, last, o, part, rest⟩ := completes
  exact ⟨more, last, o, part.cons event, rest⟩

theorem completes_of_ending (ending : s.flight.group.executions.get? e = some ⟨key, .ending o⟩) :
    s.Completes e key [.release e] := by
  have released : ∃ s', s.step (.release e) = some s' ∧
      s'.flight.group.executions.get? e = some ⟨key, .ended o⟩ := by
    rw [State.step, release?, Flight.Group.release?_eq ending, Option.map_some]
    exact ⟨_, rfl, by simp⟩
  obtain ⟨s', stepped, ended⟩ := released
  exact Completes.step ⟨[], s', o, List.Sublist.refl [], rfl, ended⟩ stepped

theorem conclude?_ending (running : s.flight.group.executions.get? e = some ⟨key, .running⟩)
    (loader : Loader) (o : Outcome Payload) :
    ∃ s', s.conclude? e loader o = some s' ∧
      s'.flight.group.executions.get? e = some ⟨key, .ending o⟩ := by
  rw [conclude?, Flight.Group.finish?_eq running, Option.map_some]
  exact ⟨_, rfl, by simp⟩

theorem keep?_ending {p : Payload} (running : s.flight.group.executions.get? e = some ⟨key, .running⟩)
    (loader : Loader) (w : Write) :
    ∃ s' o, s.keep? e loader key p w = some s' ∧
      s'.flight.group.executions.get? e = some ⟨key, .ending o⟩ := by
  cases w with
  | failed =>
      obtain ⟨s', stepped, ending⟩ := conclude?_ending
        (s := { s with counters := { s.counters with writeErrors := s.counters.writeErrors + 1 } })
        running loader (.ok p)
      exact ⟨s', _, stepped, ending⟩
  | accepted =>
      obtain ⟨s', stepped, ending⟩ := conclude?_ending running loader (.ok p)
      exact ⟨s', _, stepped, ending⟩
  | kept =>
      rw [keep?]
      split
      · rename_i store _
        obtain ⟨s', stepped, ending⟩ := conclude?_ending (s := { s with store }) running loader (.ok p)
        exact ⟨s', _, stepped, ending⟩
      · obtain ⟨s', stepped, ending⟩ := conclude?_ending running loader (.error _)
        exact ⟨s', _, stepped, ending⟩

theorem completes_of_writing {p : Payload} (present : s.loaders.get? e = some ⟨kind, .writing p⟩)
    (running : s.flight.group.executions.get? e = some ⟨key, .running⟩) (w : Write) :
    s.Completes e key [.write e w, .release e] := by
  obtain ⟨s', o, kept, ending⟩ := keep?_ending (p := p) running ⟨kind, .writing p⟩ w
  have stepped : s.step (.write e w) = some s' := write?_iff.mpr ⟨_, _, p, present, running, rfl, kept⟩
  exact (completes_of_ending ending).step stepped

theorem completes_of_loading (present : s.loaders.get? e = some ⟨kind, .loading⟩)
    (running : s.flight.group.executions.get? e = some ⟨key, .running⟩) (w : Write)
    {outcome : LoadOutcome}
    (possible : ∀ p, outcome = .loaded p → p.kind = kind ∧ p.size < Payload.sizeLimit) :
    s.Completes e key [.finish e outcome, .write e w, .release e] := by
  have ends {s' : State} (ended : s.end? e ⟨kind, .loading⟩ key outcome = some s') :
      s.step (.finish e outcome) = some s' := finish?_iff.mpr ⟨_, _, present, running, rfl, ended⟩
  have fails (o : Outcome Payload)
      (concludes : s.end? e ⟨kind, .loading⟩ key outcome = s.conclude? e ⟨kind, .loading⟩ o) :
      s.Completes e key [.finish e outcome, .write e w, .release e] := by
    obtain ⟨s', concluded, ending⟩ := conclude?_ending running ⟨kind, .loading⟩ o
    exact ((completes_of_ending ending).skip (.write e w)).step (ends (concludes.trans concluded))
  cases outcome with
  | loaded p =>
      obtain ⟨own, fits⟩ := possible p rfl
      have fetched : ¬(p.kind ≠ kind ∨ Payload.sizeLimit ≤ p.size) := by
        rintro (other | large)
        · exact other own
        · exact Nat.not_le_of_lt fits large
      by_cases empty : p.isEmpty = true
      · refine fails (.error (.emptyPayload key)) ?_
        rw [end?, if_neg fetched, if_pos empty]
      · have stepped : s.step (.finish e (.loaded p)) =
            some (s.setLoader e ⟨kind, .loading⟩ (.writing p)) :=
          ends (by rw [end?, if_neg fetched, if_neg empty])
        have next : (s.setLoader e ⟨kind, .loading⟩ (.writing p)).loaders.get? e =
            some ⟨kind, .writing p⟩ := by
          simp [setLoader]
        exact (completes_of_writing next running w).step stepped
  | failed err => exact fails (.error err) rfl
  | panicked message => exact fails (.error (.internal (.loaderPanicked message))) rfl

theorem completes_of_missed (present : s.loaders.get? e = some ⟨kind, .missed⟩)
    (running : s.flight.group.executions.get? e = some ⟨key, .running⟩) (w : Write)
    {outcome : LoadOutcome}
    (possible : ∀ p, outcome = .loaded p → p.kind = kind ∧ p.size < Payload.sizeLimit) :
    s.Completes e key [.start e, .finish e outcome, .write e w, .release e] := by
  have stepped : s.step (.start e) = some (s.setLoader e ⟨kind, .missed⟩ .loading) :=
    start?_iff.mpr ⟨_, present, rfl, rfl⟩
  have next : (s.setLoader e ⟨kind, .missed⟩ .loading).loaders.get? e = some ⟨kind, .loading⟩ := by
    simp [setLoader]
  exact (completes_of_loading next running w possible).step stepped

theorem completes_of_spawned (present : s.loaders.get? e = some ⟨kind, .spawned⟩)
    (running : s.flight.group.executions.get? e = some ⟨key, .running⟩) (read : Read) (w : Write)
    {outcome : LoadOutcome}
    (possible : ∀ p, outcome = .loaded p → p.kind = kind ∧ p.size < Payload.sizeLimit) :
    s.Completes e key [.recheck e read, .start e, .finish e outcome, .write e w, .release e] := by
  obtain ⟨store, counters, same⟩ := find_fst s key kind read
  cases found : (s.find key kind read).2 with
  | some p =>
      obtain ⟨s', concluded, ending⟩ :=
        conclude?_ending (s := { s with store, counters }) running ⟨kind, .spawned⟩ (.ok p)
      have stepped : s.step (.recheck e read) = some s' := by
        refine recheck?_iff.mpr ⟨_, _, present, running, rfl, ?_⟩
        dsimp only
        rw [found, same]
        exact concluded
      -- The loader has ended at its first look, so the events in between are left out.
      exact ((((completes_of_ending ending).skip _).skip _).skip _).step stepped
  | none =>
      have stepped : s.step (.recheck e read) =
          some ({ s with store, counters }.setLoader e ⟨kind, .spawned⟩ .missed) := by
        refine recheck?_iff.mpr ⟨_, _, present, running, rfl, ?_⟩
        dsimp only
        rw [found, same, reread?]
      have next : ({ s with store, counters }.setLoader e ⟨kind, .spawned⟩ .missed).loaders.get? e =
          some ⟨kind, .missed⟩ := by
        simp [setLoader]
      exact (completes_of_missed next running w possible).step stepped

end State

theorem Reached.completes (reached : Reached ttl Allowed trace s) (named : s.HasKey e key)
    {loader : LoaderPhase} (present : s.loaders.get? e = some ⟨kind, loader⟩) (read : Read) (w : Write)
    {outcome : LoadOutcome}
    (possible : ∀ p, outcome = .loaded p → p.kind = kind ∧ p.size < Payload.sizeLimit) :
    s.Completes e key [.recheck e read, .start e, .finish e outcome, .write e w, .release e] := by
  obtain ⟨phase, found⟩ := named
  have last {o : Outcome Payload} (told : phase.outcome? = some o) :
      s.Completes e key [.recheck e read, .start e, .finish e outcome, .write e w, .release e] := by
    cases phase with
    | running => cases told
    | ending o => exact ((((State.completes_of_ending found).skip _).skip _).skip _).skip _
    | ended o => exact ⟨[], s, o, List.nil_sublist _, rfl, found⟩
  cases reached.told.story e kind loader key phase present found with
  | spawned _ _ => exact State.completes_of_spawned present found read w possible
  | missed _ _ => exact (State.completes_of_missed present found w possible).skip _
  | loading _ _ => exact ((State.completes_of_loading present found w possible).skip _).skip _
  | writing _ _ _ _ => exact (((State.completes_of_writing present found w).skip _).skip _).skip _
  | found _ _ _ _ told => exact last told
  | loaded _ _ _ told => exact last told
  | overflow _ _ _ told => exact last told

theorem Reached.receives (reached : Reached ttl Allowed trace s) {caller : Caller} {call : Call Payload}
    (present : s.callers.get? c = some caller) (called : s.flight.calls.get? c = some call)
    (waits : call.phase = .waiting e)
    (going : call.context.done? .cancellation s.flight.tokens s.now = none)
    (ended : s.flight.group.executions.get? e = some ⟨key, .ended o⟩) :
    s.step (.receive c) = some { s with flight := s.flight.setPhase c call (.returned o) } ∧
      State.result? { s with flight := s.flight.setPhase c call (.returned o) } c =
        some (State.ofKind caller.kind o) := by
  obtain ⟨_, sound⟩ := reached.isSound
  obtain ⟨flying, _⟩ := sound.flying present called
  constructor
  · rw [State.step, Flight.State.receive?_eq called waits going ended, Option.map_some]
  · rw [State.result?, present]
    dsimp only
    rw [flying]
    simp [Flight.State.result?_setPhase]

theorem ofKind_of_typed (typed : ∀ p, o = .ok p → p.kind = kind) : State.ofKind kind o = o := by
  cases o with
  | ok p => rw [State.ofKind, if_pos (typed p rfl)]
  | error err => rfl

/-- The callers of the kind that started the execution or joined it have its outcome and nothing else,
unless their contexts are done; and those that still wait when the key is given up can take it. -/
def Delivers (ttl : Option Duration) (trace : List Event) (s : State) (e key : String)
    (kind : PayloadKind) (o : Outcome Payload) : Prop :=
  ∀ c caller, s.callers.get? c = some caller → caller.kind = kind →
    (∀ r, Joined ttl trace c e → s.result? c = some r → r = o ∨
      ∃ err, r = .error err ∧ caller.context.Causes s.flight.tokens s.now err) ∧
    ∀ call, s.flight.calls.get? c = some call → call.phase = .waiting e →
      call.context.done? .cancellation s.flight.tokens s.now = none →
      s.flight.group.executions.get? e = some ⟨key, .ended o⟩ →
        ∃ s', s.step (.receive c) = some s' ∧ s'.result? c = some o

theorem Reached.delivers (reached : Reached ttl Allowed trace s) (concludes : s.Concludes e key o)
    (typed : ∀ p, o = .ok p → p.kind = kind) : Delivers ttl trace s e key kind o := by
  intro c caller present own
  constructor
  · intro r joined returns
    rcases reached.origin present returns with ⟨err, refused, causes⟩ | ⟨outside, _⟩ | answered
    · exact .inr ⟨err, refused, causes⟩
    · obtain ⟨call, called⟩ := joined.called reached
      rw [outside] at called
      cases called
    · obtain ⟨e', o', joined', ended, rfl⟩ := answered
      cases joined.unique reached joined'
      cases concludes.unique ⟨_, ended, rfl⟩
      exact .inl (own ▸ ofKind_of_typed typed)
  · intro call called waits going ended
    obtain ⟨stepped, result⟩ := reached.receives present called waits going ended
    rw [own, ofKind_of_typed typed] at result
    exact ⟨_, stepped, result⟩

/-- An error that a caller gets comes from its own context or from an execution that it started or
joined, whatever the backend answers. An execution whose loader reads nothing calls its fetch function
once, can always come to its end, and its callers get what the fetch function came to. -/
theorem fetches_fail_open (reached : Reached ttl Event.IsAdversarial trace s) :
    (∀ c caller err, s.callers.get? c = some caller → s.result? c = some (.error err) →
      caller.context.Causes s.flight.tokens s.now err ∨
        ∃ e, Joined ttl trace c e ∧ s.HasKey e caller.key ∧
          Fault s trace e caller.key caller.kind err) ∧
    ∀ e key kind loader, s.HasKey e key → s.loaders.get? e = some ⟨kind, loader⟩ →
      Unread ttl trace e key kind →
        starts trace e ≤ 1 ∧
        (∀ read w outcome, (∀ p, outcome = .loaded p → p.kind = kind ∧ p.size < Payload.sizeLimit) →
          s.Completes e key
            [.recheck e read, .start e, .finish e outcome, .write e w, .release e]) ∧
        ∀ o, s.Concludes e key o →
          starts trace e = 1 ∧ (∃ result, ends trace e = [result] ∧ o = result.result key) ∧
            Delivers ttl trace s e key kind o := by
  constructor
  · intro c caller err present returns
    exact reached.fault_of_result present returns
  · intro e key kind loader named present unread
    refine ⟨reached.starts_le_one e, ?_, ?_⟩
    · intro read w outcome possible
      exact reached.completes named present read w possible
    · intro o concludes
      obtain ⟨once, typed, result⟩ := reached.loaded_of_unread present unread concludes
      exact ⟨once, result, reached.delivers concludes typed⟩

theorem fetches_fail_open_on_garbage :
    ∃ trace s, Reached none Event.IsAdversarial trace s ∧ Unread none trace "a" "k" .search ∧
      starts trace "a" = 1 ∧
      ∃ s', s.step (.receive "b") = some s' ∧ s'.result? "b" = some (.ok (.search ⟨[]⟩)) := by
  let trace : List Event :=
    [.token "t" none, .arrive "a" "k" .search ⟨"t", none⟩, .arrive "b" "k" .search ⟨"t", none⟩,
     .check "a", .check "b", .lookup "a" .failed, .lookup "b" (.answered (some [5, 1])), .enter "a",
     .enter "b", .recheck "a" (.answered (some [255])), .start "a",
     .finish "a" (.loaded (.search ⟨[]⟩)), .write "a" .failed, .release "a"]
  let s := ((State.initial none).run trace).get (by decide +kernel)
  have reached : Reached none Event.IsAdversarial trace s :=
    reached_of_run (by simp [trace, Event.IsAdversarial, Event.Meets]) (Option.some_get _).symm
  have unread : Unread none trace "a" "k" .search := by
    intro s₀ read happened
    have member := happened.mem
    simp only [trace, List.mem_cons, reduceCtorEq, Event.recheck.injEq, List.not_mem_nil, or_false,
      false_or, true_and] at member
    rw [member, Read.payload?]
    decide +kernel
  have present : s.callers.get? "b" = some ⟨"k", .search, ⟨"t", none⟩, .flying⟩ := by decide +kernel
  have called : s.flight.calls.get? "b" = some ⟨"k", ⟨"t", none⟩, .waiting "a"⟩ := by decide +kernel
  have ended : s.flight.group.executions.get? "a" = some ⟨"k", .ended (.ok (.search ⟨[]⟩))⟩ := by
    decide +kernel
  have going : (CallContext.mk "t" none).done? .cancellation s.flight.tokens s.now = none := by
    decide +kernel
  have loader : s.loaders.get? "a" = some ⟨.search, .done⟩ := by decide +kernel
  obtain ⟨once, _, delivers⟩ :=
    ((fetches_fail_open reached).2 "a" "k" .search .done ⟨_, ended⟩ loader unread).2.2 _
      ⟨_, ended, rfl⟩
  exact ⟨trace, s, reached, unread, once, (delivers "b" _ present rfl).2 _ called rfl going ended⟩

end PlaceGateway.Fetch
