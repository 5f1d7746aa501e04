import Mathlib.Data.List.Induction
import PlaceGateway.Proofs.Flight.Sound
/-! Runs of coalesced calls from their start, and what has happened in them. -/

namespace PlaceGateway.Flight

variable {V : Type} {trace : List (Event V)} {s t before : State V} {event : Event V}
  {c e key : String} {context : CallContext} {phase : Phase V}

namespace State

theorem run_append (s : State V) (front rest : List (Event V)) :
    s.run (front ++ rest) = (s.run front).bind (·.run rest) := by
  induction front generalizing s with
  | nil => rfl
  | cons event front ih =>
      rw [List.cons_append, run, run, Option.bind_assoc]
      exact Option.bind_congr fun s _ => ih s

theorem run_concat (s : State V) (trace : List (Event V)) (event : Event V) :
    s.run (trace ++ [event]) = (s.run trace).bind (·.step event) := by
  rw [run_append]
  refine Option.bind_congr fun s _ => ?_
  rw [run]
  cases s.step event <;> rfl

theorem run_induction (Inv : List (Event V) → State V → Prop) (start : Inv [] .initial)
    (step : ∀ {trace s event t}, initial.run trace = some s → Inv trace s → s.step event = some t →
      Inv (trace ++ [event]) t)
    (run : initial.run trace = some s) : Inv trace s := by
  induction trace using List.reverseRecOn generalizing s with
  | nil =>
      cases run
      exact start
  | append_singleton trace event ih =>
      rw [run_concat, Option.bind_eq_some_iff] at run
      obtain ⟨s, run, stepped⟩ := run
      exact step run (ih run) stepped

theorem sound_of_run (run : initial.run trace = some s) : s.Sound := by
  apply run_induction (fun _ s => s.Sound) sound_initial _ run
  intro _ _ _ _ _ sound stepped
  exact (step_spec stepped).sound sound

theorem Sound.preserves (Inv : State V → Prop)
    (step : ∀ {s event t}, s.Sound → s.Step event t → Inv s → Inv t) (sound : s.Sound)
    (run : s.run trace = some t) (holds : Inv s) : Inv t := by
  induction trace generalizing s with
  | nil =>
      cases run
      exact holds
  | cons event trace ih =>
      rw [State.run, Option.bind_eq_some_iff] at run
      obtain ⟨next, stepped, run⟩ := run
      have stepped := step_spec stepped
      exact ih (stepped.sound sound) run (step sound stepped holds)

theorem Step.result (step : s.Step event t) {r : Outcome V} (returned : s.result? c = some r) :
    t.result? c = some r := by
  have kept {other : CallerId} {call : Call V}
      (open_ : ∀ call, s.calls.get? other = some call → ∀ r, call.phase ≠ .returned r) :
      State.result? { s with calls := s.calls.set other call } c = some r := by
    have differs : c ≠ other := by
      rintro rfl
      obtain ⟨own, present, answered⟩ := returned_of_result? returned
      exact open_ own present r answered
    rw [result?] at returned ⊢
    simpa [differs] using returned
  have waits {other e : CallerId} {call : Call V} (present : s.calls.get? other = some call)
      (waiting : call.phase = .waiting e) :
      ∀ call, s.calls.get? other = some call → ∀ r, call.phase ≠ .returned r := by
    intro own found r answered
    rw [present] at found
    cases found
    rw [waiting] at answered
    cases answered
  have absent {other : CallerId} (new : s.calls.get? other = none) :
      ∀ call, s.calls.get? other = some call → ∀ r, call.phase ≠ .returned r := by
    intro own found
    rw [new] at found
    cases found
  -- A step of another leaves the call alone, and a caller with a result takes none.
  cases step with
  | refuse new _ => exact kept (absent new)
  | join new _ _ => exact kept (absent new)
  | spawn new _ _ => exact kept (absent new)
  | receive present waiting _ => exact kept (waits present waiting)
  | giveUp present waiting _ => exact kept (waits present waiting)
  | leave present waiting => exact kept (waits present waiting)
  | idle _ _ _ => exact returned
  | finish _ _ => exact returned
  | release _ => exact returned

theorem Step.called (step : s.Step event t) {call : Call V} (present : s.calls.get? c = some call) :
    ∃ phase, t.calls.get? c = some ⟨call.key, call.context, phase⟩ := by
  have made {other : CallerId} {own : Call V} (new : s.calls.get? other = none) :
      ∃ phase, (s.calls.set other own).get? c = some ⟨call.key, call.context, phase⟩ := by
    have differs : c ≠ other := Table.ne_of_get? present new
    exact ⟨call.phase, by simp [differs, present]⟩
  have moved {other : CallerId} {own : Call V} (found : s.calls.get? other = some own)
      (phase : CallPhase V) :
      ∃ phase', (s.calls.set other { own with phase }).get? c =
        some ⟨call.key, call.context, phase'⟩ := by
    by_cases same : c = other
    · subst same
      rw [present] at found
      cases found
      exact ⟨phase, by simp⟩
    · exact ⟨call.phase, by simp [same, present]⟩
  cases step with
  | refuse new _ => exact made new
  | join new _ _ => exact made new
  | spawn new _ _ => exact made new
  | receive found _ _ => exact moved found _
  | giveUp found _ _ => exact moved found _
  | leave found _ => exact moved found _
  | idle _ _ _ => exact ⟨call.phase, present⟩
  | finish _ _ => exact ⟨call.phase, present⟩
  | release _ => exact ⟨call.phase, present⟩

theorem Step.calls (step : s.Step (.call c key context) t) :
    s.calls.get? c = none ∧ ∃ phase, t.calls.get? c = some ⟨key, context, phase⟩ := by
  cases step with
  | idle quiet _ _ => cases quiet
  | refuse new _ => exact ⟨new, _, by rw [Table.get?_set, if_pos rfl]⟩
  | join new _ _ => exact ⟨new, _, by rw [Table.get?_set, if_pos rfl]⟩
  | spawn new _ _ => exact ⟨new, _, by rw [Table.get?_set, if_pos rfl]⟩
  | finish ends _ => cases ends

def told (s : State V) (e : CallerId) : List (Outcome V) :=
  ((s.group.executions.get? e).bind (·.phase.outcome?)).toList

theorem Step.told (step : s.Step event t) (sound : s.Sound) (e : CallerId) :
    t.told e = s.told e ++ (event.outcome? e).toList := by
  cases step with
  | idle quiet _ _ =>
      rw [quiet.silent, Option.toList_none, List.append_nil]
      rfl
  | @spawn c key _ new _ _ =>
      refine Eq.trans ?_ (List.append_nil _).symm
      rw [State.told, State.told]
      by_cases same : e = c
      · simp [same, sound.fresh new, Phase.outcome?]
      · simp [same]
  | @finish _ own key o ends running =>
      rw [State.told, State.told]
      by_cases same : e = own
      · subst same
        simp [running, ends, Phase.outcome?]
      · have silent : event.outcome? e = none := by
          cases told : event.outcome? e with
          | none => rfl
          | some _ => exact absurd (Event.outcome?_unique told ends) same
        simp [same, silent]
  | @release own key o ending =>
      refine Eq.trans ?_ (List.append_nil _).symm
      rw [State.told, State.told]
      by_cases same : e = own
      · subst same
        simp [ending, Phase.outcome?]
      · simp [same]
  | _ => exact (List.append_nil _).symm

end State

def Happened (trace : List (Event V)) (s : State V) (event : Event V) : Prop :=
  ∃ front rest, trace = front ++ event :: rest ∧ State.initial.run front = some s

def outcomes (trace : List (Event V)) (e : CallerId) : List (Outcome V) :=
  trace.filterMap (Event.outcome? e)

/-- The caller came in the run with the context, and attached itself to the execution. -/
def Attached (trace : List (Event V)) (c : CallerId) (key : String) (context : CallContext)
    (e : CallerId) : Prop :=
  ∃ s t, Happened trace s (.call c key context) ∧ s.step (.call c key context) = some t ∧
    t.calls.get? c = some ⟨key, context, .waiting e⟩

theorem happened_concat {last : Event V} :
    Happened (trace ++ [last]) before event ↔
      Happened trace before event ∨ event = last ∧ State.initial.run trace = some before := by
  constructor
  · rintro ⟨front, rest, split, run⟩
    rcases List.eq_nil_or_concat rest with rfl | ⟨mid, final, rfl⟩
    · obtain ⟨rfl, same⟩ := List.append_inj' split rfl
      cases same
      exact .inr ⟨rfl, run⟩
    · rw [List.concat_eq_append, ← List.cons_append, ← List.append_assoc] at split
      obtain ⟨rfl, same⟩ := List.append_inj' split rfl
      exact .inl ⟨front, mid, rfl, run⟩
  · rintro (⟨front, rest, rfl, run⟩ | ⟨rfl, run⟩)
    · exact ⟨front, rest ++ [last], by simp, run⟩
    · exact ⟨trace, [], rfl, run⟩

theorem Happened.append (happened : Happened trace before event) (more : List (Event V)) :
    Happened (trace ++ more) before event := by
  obtain ⟨front, rest, rfl, run⟩ := happened
  exact ⟨front, rest ++ more, by rw [List.append_assoc, List.cons_append], run⟩

theorem Attached.append (attached : Attached trace c key context e) (more : List (Event V)) :
    Attached (trace ++ more) c key context e := by
  obtain ⟨s, t, happened, stepped⟩ := attached
  exact ⟨s, t, happened.append more, stepped⟩

theorem outcomes_concat (trace : List (Event V)) (event : Event V) (e : CallerId) :
    outcomes (trace ++ [event]) e = outcomes trace e ++ (event.outcome? e).toList := by
  rw [outcomes, List.filterMap_append, outcomes, List.filterMap_cons]
  cases event.outcome? e <;> rfl

theorem Happened.stepped (happened : Happened trace before event)
    (run : State.initial.run trace = some s) :
    before.Sound ∧ ∃ after rest, before.step event = some after ∧ after.run rest = some s := by
  obtain ⟨front, rest, rfl, reached⟩ := happened
  rw [State.run_append, reached, Option.bind_some, State.run, Option.bind_eq_some_iff] at run
  obtain ⟨after, stepped, run⟩ := run
  exact ⟨State.sound_of_run reached, after, rest, stepped, run⟩

/-- Where an answer comes from: the caller's own context, or the execution that it attached itself
to, which has ended. -/
def Answered (trace : List (Event V)) (s : State V) (c : CallerId) (call : Call V) : Prop :=
  match call.phase with
  | .waiting e => Attached trace c call.key call.context e
  | .returned r => (∃ err, r = .error err ∧ call.context.Causes s.tokens s.now err) ∨
      ∃ e, Attached trace c call.key call.context e ∧
        s.group.executions.get? e = some ⟨call.key, .ended r⟩
  | .dropped => True

structure Recalled (trace : List (Event V)) (s : State V) : Prop where
  outcomes : ∀ e, outcomes trace e = s.told e
  called : ∀ {c key context before}, Happened trace before (.call c key context) →
    ∃ phase, s.calls.get? c = some ⟨key, context, phase⟩
  once : ∀ {c key key' context context' before before'}, Happened trace before (.call c key context) →
    Happened trace before' (.call c key' context') →
      before = before' ∧ key = key' ∧ context = context'
  answered : ∀ c call, s.calls.get? c = some call → Answered trace s c call

theorem recalled_initial : Recalled [] (State.initial : State V) where
  outcomes _ := rfl
  called := by
    rintro _ _ _ _ ⟨front, rest, split, _⟩
    simp at split
  once := by
    rintro _ _ _ _ _ _ _ ⟨front, rest, split, _⟩
    simp at split
  answered _ _ present := by cases present

theorem Answered.later {call : Call V} (answered : Answered trace s c call) (step : s.Step event t)
    (sound : s.Sound) : Answered (trace ++ [event]) t c call := by
  unfold Answered at answered ⊢
  split
  · rename_i e waiting
    rw [waiting] at answered
    exact answered.append _
  · rename_i r returned
    rw [returned] at answered
    rcases answered with ⟨err, rfl, causes⟩ | ⟨e, attached, ended⟩
    · exact .inl ⟨err, rfl, causes.mono step.cancelled step.now_le⟩
    · obtain ⟨phase, found, becomes⟩ := step.keeps sound ended
      exact .inr ⟨e, attached.append _, becomes.ended ▸ found⟩
  · trivial

theorem Recalled.step (recalled : Recalled trace s) (run : State.initial.run trace = some s)
    (stepped : s.step event = some t) : Recalled (trace ++ [event]) t := by
  have sound := State.sound_of_run run
  have step := State.step_spec stepped
  -- A call that happened has an entry, so its caller makes no second one.
  have unmade {c key context before} (happened : Happened trace before (.call c key context))
      (new : s.calls.get? c = none) : False := by
    obtain ⟨phase, present⟩ := recalled.called happened
    rw [new] at present
    cases present
  refine ⟨?_, ?_, ?_, ?_⟩
  · intro e
    rw [outcomes_concat, recalled.outcomes, step.told sound]
  · intro c key context before happened
    rcases happened_concat.mp happened with earlier | ⟨rfl, _⟩
    · obtain ⟨phase, present⟩ := recalled.called earlier
      exact step.called present
    · exact step.calls.2
  · intro c key key' context context' before before' one other
    rcases happened_concat.mp one with early | ⟨rfl, reached⟩ <;>
      rcases happened_concat.mp other with early' | ⟨last, reached'⟩
    · exact recalled.once early early'
    · subst last
      exact (unmade early step.calls.1).elim
    · exact (unmade early' step.calls.1).elim
    · cases last
      rw [reached] at reached'
      cases reached'
      exact ⟨rfl, rfl, rfl⟩
  · have later (c : CallerId) (call : Call V) (present : s.calls.get? c = some call) :
        Answered (trace ++ [event]) t c call := (recalled.answered c call present).later step sound
    have attaches {c key context e} (isCall : event = .call c key context)
        (call : t.calls.get? c = some ⟨key, context, .waiting e⟩) :
        Attached (trace ++ [event]) c key context e := by
      subst isCall
      exact ⟨s, t, happened_concat.mpr (.inr ⟨rfl, run⟩), stepped, call⟩
    cases step with
    | refuse _ done =>
        exact Table.forall_set later (.inl ⟨_, rfl, CallContext.causes_of_check done⟩)
    | join _ _ _ => exact Table.forall_set later (attaches rfl (by simp))
    | spawn _ _ _ => exact Table.forall_set later (attaches rfl (by simp))
    | @receive c e call key o present waiting ended =>
        have attached := later c call present
        rw [Answered, waiting] at attached
        obtain ⟨phase, found⟩ := sound.attached c call e present waiting
        have own : key = call.key := by
          rw [ended] at found
          cases found
          rfl
        exact Table.forall_set later (.inr ⟨e, attached, own ▸ ended⟩)
    | giveUp _ _ causes => exact Table.forall_set later (.inl ⟨_, rfl, causes⟩)
    | leave _ _ => exact Table.forall_set later trivial
    | _ => exact later

theorem recalled_of_run (run : State.initial.run trace = some s) : Recalled trace s :=
  State.run_induction Recalled recalled_initial (fun run recalled stepped => recalled.step run stepped) run

theorem Attached.unique (run : State.initial.run trace = some s) {key' e' : String}
    {context' : CallContext} (one : Attached trace c key context e)
    (other : Attached trace c key' context' e') : e = e' := by
  obtain ⟨before, after, happened, stepped, waits⟩ := one
  obtain ⟨before', after', happened', stepped', waits'⟩ := other
  obtain ⟨rfl, rfl, rfl⟩ := (recalled_of_run run).once happened happened'
  rw [stepped] at stepped'
  cases stepped'
  rw [waits] at waits'
  cases waits'
  rfl

end PlaceGateway.Flight
