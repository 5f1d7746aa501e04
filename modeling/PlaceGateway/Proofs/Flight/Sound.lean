import PlaceGateway.Proofs.Flight.Step
import PlaceGateway.Proofs.Table
/-! Coalesced calls as a relation between their states, and what every step of it keeps: a key is held
by its one execution that has not ended. -/

namespace PlaceGateway.Flight

variable {V : Type} {e e' key : String} {phase phase' : Phase V}

structure Held (flights : Table CallerId) (executions : Table (Execution V)) : Prop where
  held : ∀ key e, flights.get? key = some e →
    ∃ phase, executions.get? e = some ⟨key, phase⟩ ∧ phase.isEnded = false
  holds : ∀ e key phase, executions.get? e = some ⟨key, phase⟩ → phase.isEnded = false →
    flights.get? key = some e

namespace Held

variable {flights : Table CallerId} {executions : Table (Execution V)}

theorem empty : Held .empty (.empty : Table (Execution V)) where
  held _ _ present := by cases present
  holds _ _ _ present := by cases present

theorem unique (held : Held flights executions) (found : executions.get? e = some ⟨key, phase⟩)
    (unended : phase.isEnded = false) (found' : executions.get? e' = some ⟨key, phase'⟩)
    (unended' : phase'.isEnded = false) : e = e' := by
  have first := held.holds e key phase found unended
  have second := held.holds e' key phase' found' unended'
  exact Option.some.inj (first.symm.trans second)

theorem move (held : Held flights executions) (found : executions.get? e = some ⟨key, phase⟩)
    (unended : phase.isEnded = false) (still : phase'.isEnded = false) :
    Held flights (executions.set e ⟨key, phase'⟩) where
  held other holder holding := by
    obtain ⟨was, present, unended⟩ := held.held other holder holding
    by_cases same : holder = e
    · subst same
      rw [found] at present
      cases present
      exact ⟨phase', by simp, still⟩
    · exact ⟨was, by simp [same, present], unended⟩
  holds holder other was present unended' := by
    rcases Table.get?_set_cases present with ⟨rfl, is⟩ | ⟨_, before⟩
    · cases is
      exact held.holds holder key phase found unended
    · exact held.holds holder other was before unended'

theorem spawn (held : Held flights executions) (free : flights.get? key = none)
    (fresh : executions.get? e = none) :
    Held (flights.set key e) (executions.set e ⟨key, .running⟩) where
  held other holder holding := by
    rcases Table.get?_set_cases holding with ⟨rfl, rfl⟩ | ⟨_, before⟩
    · exact ⟨.running, by simp, rfl⟩
    · obtain ⟨was, present, unended⟩ := held.held other holder before
      have differs : holder ≠ e := Table.ne_of_get? present fresh
      exact ⟨was, by simp [differs, present], unended⟩
  holds holder other was present unended := by
    rcases Table.get?_set_cases present with ⟨rfl, is⟩ | ⟨_, before⟩
    · cases is
      simp
    · have holding := held.holds holder other was before unended
      have differs : other ≠ key := Table.ne_of_get? holding free
      rwa [Table.get?_set, if_neg differs]

theorem release (held : Held flights executions) {o : Outcome V}
    (found : executions.get? e = some ⟨key, .ending o⟩) :
    Held (flights.erase key) (executions.set e ⟨key, .ended o⟩) where
  held other holder holding := by
    by_cases same : other = key
    · simp [same] at holding
    · simp only [Table.get?_erase, if_neg same] at holding
      obtain ⟨was, present, unended⟩ := held.held other holder holding
      have differs : holder ≠ e := by
        rintro rfl
        rw [found] at present
        cases present
        exact same rfl
      exact ⟨was, by simp [differs, present], unended⟩
  holds holder other was present unended := by
    rcases Table.get?_set_cases present with ⟨_, is⟩ | ⟨apart, before⟩
    · cases is
      cases unended
    · have holding := held.holds holder other was before unended
      have differs : other ≠ key := by
        rintro rfl
        exact apart (held.unique before unended found rfl)
      simp [differs, holding]

end Held

def Event.outcome? (e : CallerId) : Event V → Option (Outcome V)
  | finish other outcome => if other = e then some outcome else none
  | panic other message => if other = e then some (panicOutcome message) else none
  | _ => none

theorem Event.outcome?_unique {event : Event V} {o o' : Outcome V} (ends : event.outcome? e = some o)
    (ends' : event.outcome? e' = some o') : e = e' := by
  cases event with
  | finish other outcome =>
      rw [Event.outcome?, Option.ite_none_right_eq_some] at ends ends'
      exact ends.1.symm.trans ends'.1
  | panic other message =>
      rw [Event.outcome?, Option.ite_none_right_eq_some] at ends ends'
      exact ends.1.symm.trans ends'.1
  | _ => cases ends

def Event.IsQuiet : Event V → Prop
  | token .. | cancel _ | advance _ => True
  | _ => False

theorem Event.IsQuiet.silent {event : Event V} (quiet : event.IsQuiet) : event.outcome? e = none := by
  cases event with
  | token _ _ => rfl
  | cancel _ => rfl
  | advance _ => rfl
  | _ => cases quiet

namespace State

variable {s t : State V} {event : Event V} {c : CallerId}

/-- All that an event can do to calls and executions. -/
inductive Step (s : State V) : Event V → State V → Prop where
  | idle {event : Event V} {now : Instant} {tokens : Tokens} (quiet : event.IsQuiet) (later : s.now ≤ now)
      (cancelled : ∀ id, s.tokens.isCancelled id = true → tokens.isCancelled id = true) :
      Step s event { s with now, tokens }
  | refuse {c : CallerId} {key : String} {context : CallContext} {err : CallError}
      (new : s.calls.get? c = none) (done : context.check s.tokens s.now = some err) :
      Step s (.call c key context)
        { s with calls := s.calls.set c ⟨key, context, .returned (.error err)⟩ }
  | join {c e : CallerId} {key : String} {context : CallContext} (new : s.calls.get? c = none)
      (going : context.check s.tokens s.now = none) (holding : s.group.flights.get? key = some e) :
      Step s (.call c key context)
        { s with
          group := { s.group with shared := s.group.shared + 1 }
          calls := s.calls.set c ⟨key, context, .waiting e⟩ }
  | spawn {c : CallerId} {key : String} {context : CallContext} (new : s.calls.get? c = none)
      (going : context.check s.tokens s.now = none) (free : s.group.flights.get? key = none) :
      Step s (.call c key context)
        { s with
          group := { s.group with
            flights := s.group.flights.set key c
            executions := s.group.executions.set c ⟨key, .running⟩ }
          calls := s.calls.set c ⟨key, context, .waiting c⟩ }
  | finish {event : Event V} {e : CallerId} {key : String} {o : Outcome V}
      (ends : event.outcome? e = some o)
      (running : s.group.executions.get? e = some ⟨key, .running⟩) :
      Step s event { s with
        group := { s.group with executions := s.group.executions.set e ⟨key, .ending o⟩ } }
  | release {e : CallerId} {key : String} {o : Outcome V}
      (ending : s.group.executions.get? e = some ⟨key, .ending o⟩) :
      Step s (.release e) { s with
        group := { s.group with
          flights := if s.group.flights.get? key = some e then s.group.flights.erase key
            else s.group.flights
          executions := s.group.executions.set e ⟨key, .ended o⟩ } }
  | receive {c e : CallerId} {call : Call V} {key : String} {o : Outcome V}
      (present : s.calls.get? c = some call) (waiting : call.phase = .waiting e)
      (ended : s.group.executions.get? e = some ⟨key, .ended o⟩) :
      Step s (.receive c) (s.setPhase c call (.returned o))
  | giveUp {c e : CallerId} {call : Call V} {choice : Choice} {err : CallError}
      (present : s.calls.get? c = some call) (waiting : call.phase = .waiting e)
      (causes : call.context.Causes s.tokens s.now err) :
      Step s (.giveUp c choice) (s.setPhase c call (.returned (.error err)))
  | leave {c e : CallerId} {call : Call V} (present : s.calls.get? c = some call)
      (waiting : call.phase = .waiting e) : Step s (.drop c) (s.setPhase c call .dropped)

theorem finish_spec {o : Outcome V} (ends : event.outcome? e = some o)
    (stepped : ((s.group.finish? e o).map fun group => { s with group }) = some t) : s.Step event t := by
  obtain ⟨group, finished, rfl⟩ := Option.map_eq_some_iff.mp stepped
  rw [Group.finish?] at finished
  split at finished
  · rename_i running
    cases finished
    exact .finish ends running
  · cases finished

theorem step_spec (stepped : s.step event = some t) : s.Step event t := by
  cases event with
  | token id parent =>
      obtain ⟨token, absent, rfl⟩ := token?_spec stepped
      exact .idle trivial (Nat.le_refl _) (fun _ => Tokens.isCancelled_set_of_absent token absent)
  | cancel id =>
      cases stepped
      exact .idle trivial (Nat.le_refl _) (fun _ => Tokens.isCancelled_cancel id)
  | advance d =>
      obtain ⟨now, reached, rfl⟩ := Option.map_eq_some_iff.mp stepped
      exact .idle trivial (Instant.le_of_add? reached) (fun _ cancelled => cancelled)
  | call c key context =>
      obtain ⟨new, ⟨err, done, rfl⟩ | ⟨going, ⟨e, holding, rfl⟩ | ⟨free, rfl⟩⟩⟩ := call?_spec stepped
      · exact .refuse new done
      · exact .join new going holding
      · exact .spawn new going free
  | finish e o => exact finish_spec (if_pos rfl) stepped
  | panic e message => exact finish_spec (if_pos rfl) stepped
  | release e =>
      obtain ⟨group, released, rfl⟩ := Option.map_eq_some_iff.mp stepped
      rw [Group.release?] at released
      split at released
      · rename_i ending
        cases released
        exact .release ending
      · cases released
  | receive c =>
      obtain ⟨call, e, o, present, waiting, _, delivered, rfl⟩ := receive?_spec stepped
      obtain ⟨key, ended⟩ := Group.ended_of_outcome? delivered
      exact .receive present waiting ended
  | giveUp c choice =>
      obtain ⟨call, e, err, present, waiting, done, rfl⟩ := giveUp?_spec stepped
      exact .giveUp present waiting (CallContext.causes_of_done? done)
  | drop c =>
      obtain ⟨call, e, present, waiting, rfl⟩ := drop?_spec stepped
      exact .leave present waiting

/-- Keys are held by executions that have not ended, each of which has the name of a caller, and
callers wait on executions of their keys. -/
structure Sound (s : State V) : Prop where
  keys : s.group.flights.keys.Nodup
  names : s.group.executions.keys.Nodup
  held : Held s.group.flights s.group.executions
  started : ∀ e execution, s.group.executions.get? e = some execution →
    ∃ call, s.calls.get? e = some call
  attached : ∀ c call e, s.calls.get? c = some call → call.phase = .waiting e →
    ∃ phase, s.group.executions.get? e = some ⟨call.key, phase⟩

theorem sound_initial : (initial : State V).Sound where
  keys := List.nodup_nil
  names := List.nodup_nil
  held := .empty
  started _ _ present := by cases present
  attached _ _ _ present := by cases present

theorem Sound.fresh (sound : s.Sound) (new : s.calls.get? c = none) :
    s.group.executions.get? c = none := by
  cases found : s.group.executions.get? c with
  | none => rfl
  | some execution =>
      obtain ⟨call, present⟩ := sound.started c execution found
      rw [new] at present
      cases present

theorem Sound.setCall (sound : s.Sound) (call : Call V)
    (attached : ∀ e, call.phase = .waiting e → ∃ phase, s.group.executions.get? e = some ⟨call.key, phase⟩) :
    Sound { s with calls := s.calls.set c call } where
  keys := sound.keys
  names := sound.names
  held := sound.held
  started e execution found := by
    obtain ⟨own, was⟩ := sound.started e execution found
    by_cases same : e = c
    · exact ⟨call, by simp [same]⟩
    · exact ⟨own, by simp [same, was]⟩
  attached other own e found waiting := by
    rcases Table.get?_set_cases found with ⟨_, rfl⟩ | ⟨_, before⟩
    · exact attached e waiting
    · exact sound.attached other own e before waiting

theorem Sound.setExecution (sound : s.Sound) {flights : Table CallerId}
    (found : s.group.executions.get? e = some ⟨key, phase⟩) (keys : flights.keys.Nodup)
    (held : Held flights (s.group.executions.set e ⟨key, phase'⟩)) :
    Sound { s with group := { s.group with
      flights, executions := s.group.executions.set e ⟨key, phase'⟩ } } where
  keys := keys
  names := Table.keys_set_nodup _ _ _ sound.names
  held := held
  started holder execution present := by
    rcases Table.get?_set_cases present with ⟨rfl, _⟩ | ⟨_, before⟩
    · exact sound.started holder _ found
    · exact sound.started holder execution before
  attached c call holder present waiting := by
    obtain ⟨was, before⟩ := sound.attached c call holder present waiting
    by_cases same : holder = e
    · subst same
      rw [found] at before
      cases before
      exact ⟨phase', by simp⟩
    · exact ⟨was, by simp [same, before]⟩

theorem Sound.spawn (sound : s.Sound) (new : s.calls.get? c = none)
    (free : s.group.flights.get? key = none) (context : CallContext) :
    Sound { s with
      group := { s.group with
        flights := s.group.flights.set key c
        executions := s.group.executions.set c ⟨key, .running⟩ }
      calls := s.calls.set c ⟨key, context, .waiting c⟩ } where
  keys := Table.keys_set_nodup _ _ _ sound.keys
  names := Table.keys_set_nodup _ _ _ sound.names
  held := sound.held.spawn free (sound.fresh new)
  started e execution found := by
    rcases Table.get?_set_cases found with ⟨rfl, _⟩ | ⟨apart, before⟩
    · exact ⟨⟨key, context, .waiting e⟩, by simp⟩
    · rw [Table.get?_set, if_neg apart]
      exact sound.started e execution before
  attached other call e found waiting := by
    rcases Table.get?_set_cases found with ⟨_, rfl⟩ | ⟨_, earlier⟩
    · cases waiting
      exact ⟨.running, by simp⟩
    · obtain ⟨was, before⟩ := sound.attached other call e earlier waiting
      have differs : e ≠ c := Table.ne_of_get? before (sound.fresh new)
      exact ⟨was, by simp [differs, before]⟩

theorem Step.sound (step : s.Step event t) (sound : s.Sound) : t.Sound := by
  cases step with
  | idle _ _ _ => exact ⟨sound.keys, sound.names, sound.held, sound.started, sound.attached⟩
  | refuse _ _ => exact sound.setCall _ (by simp)
  | @join c e key context _ _ holding =>
      obtain ⟨phase, found, _⟩ := sound.held.held key e holding
      have kept : Sound { s with calls := s.calls.set c ⟨key, context, .waiting e⟩ } := by
        refine sound.setCall _ ?_
        intro other waiting
        cases waiting
        exact ⟨phase, found⟩
      exact ⟨kept.keys, kept.names, kept.held, kept.started, kept.attached⟩
  | spawn new _ free => exact sound.spawn new free _
  | finish _ running => exact sound.setExecution running sound.keys (sound.held.move running rfl rfl)
  | release ending =>
      rw [if_pos (sound.held.holds _ _ _ ending rfl)]
      exact sound.setExecution ending (Table.keys_filter_nodup _ _ sound.keys)
        (sound.held.release ending)
  | receive _ _ _ => exact sound.setCall _ (by simp)
  | giveUp _ _ _ => exact sound.setCall _ (by simp)
  | leave _ _ => exact sound.setCall _ (by simp)

theorem Step.keeps (step : s.Step event t) (sound : s.Sound)
    (present : s.group.executions.get? e = some ⟨key, phase⟩) :
    ∃ phase', t.group.executions.get? e = some ⟨key, phase'⟩ ∧ phase.Becomes phase' := by
  have moved {other own : String} {was now : Phase V}
      (found : s.group.executions.get? other = some ⟨own, was⟩) (becomes : was.Becomes now) :
      ∃ phase', (s.group.executions.set other ⟨own, now⟩).get? e = some ⟨key, phase'⟩ ∧
        phase.Becomes phase' := by
    by_cases same : e = other
    · subst same
      rw [found] at present
      cases present
      exact ⟨now, by simp, becomes⟩
    · exact ⟨phase, by simp [same, present], .inr (.inl rfl)⟩
  cases step with
  | @spawn c _ _ new _ _ =>
      have differs : e ≠ c := Table.ne_of_get? present (sound.fresh new)
      exact ⟨phase, by simp [differs, present], .inr (.inl rfl)⟩
  | finish _ running => exact moved running (.inl rfl)
  | release ending => exact moved ending (.inr (.inr ⟨_, rfl, rfl⟩))
  | _ => exact ⟨phase, present, .inr (.inl rfl)⟩

theorem Step.now_le (step : s.Step event t) : s.now ≤ t.now := by
  cases step with
  | idle _ later _ => exact later
  | _ => exact Nat.le_refl _

theorem Step.cancelled (step : s.Step event t) {id : TokenId} (was : s.tokens.isCancelled id = true) :
    t.tokens.isCancelled id = true := by
  cases step with
  | idle _ _ cancelled => exact cancelled id was
  | _ => exact was

end State

end PlaceGateway.Flight
