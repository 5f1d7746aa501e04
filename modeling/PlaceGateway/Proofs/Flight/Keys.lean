import PlaceGateway.Proofs.Flight.Run
/-! Keys follow loaders: a key is held while its loader runs, whichever way the loader ends, and no
caller joins an execution after its outcome is there to be received. -/

namespace PlaceGateway.Flight

variable {V : Type} {trace : List (Event V)} {s t u v : State V} {event : Event V}
  {c e key : String} {context : CallContext} {o : Outcome V}

namespace Group

def Active (g : Group V) (e : CallerId) (key : String) : Prop :=
  ∃ phase, g.executions.get? e = some ⟨key, phase⟩ ∧ phase.isEnded = false

def Ended (g : Group V) (e : CallerId) : Prop :=
  ∃ key o, g.executions.get? e = some ⟨key, .ended o⟩

def unfinished (g : Group V) : List CallerId :=
  (g.executions.entries.filter fun entry => !entry.2.phase.isEnded).map Prod.fst

theorem Ended.not_active {g : Group V} (ended : g.Ended e) (key : String) : ¬ g.Active e key := by
  rintro ⟨phase, found, unended⟩
  obtain ⟨own, o, found'⟩ := ended
  rw [found] at found'
  cases found'
  cases unended

end Group

namespace State

theorem Sound.holds_iff (sound : s.Sound) : s.group.flights.get? key = some e ↔ s.group.Active e key := by
  constructor
  · exact sound.held.held key e
  · rintro ⟨phase, found, unended⟩
    exact sound.held.holds e key phase found unended

theorem Sound.active_unique (sound : s.Sound) {e' : CallerId} (one : s.group.Active e key)
    (other : s.group.Active e' key) : e = e' := by
  have holds := sound.holds_iff.mpr one
  rw [sound.holds_iff.mpr other] at holds
  exact (Option.some.inj holds).symm

theorem Sound.contains_iff (sound : s.Sound) :
    s.group.flights.contains key = true ↔ ∃! e, s.group.Active e key := by
  rw [Table.contains, Option.isSome_iff_exists]
  constructor
  · rintro ⟨e, holding⟩
    have active := sound.holds_iff.mp holding
    exact ⟨e, active, fun other also => sound.active_unique also active⟩
  · rintro ⟨e, active, _⟩
    exact ⟨e, sound.holds_iff.mpr active⟩

theorem Sound.mem_unfinished (sound : s.Sound) :
    e ∈ s.group.unfinished ↔ ∃ key, s.group.Active e key := by
  simp only [Group.unfinished, List.mem_map, List.mem_filter, Bool.not_eq_true']
  constructor
  · rintro ⟨⟨name, key, phase⟩, ⟨member, unended⟩, rfl⟩
    exact ⟨key, phase, (Table.get?_eq_some_iff _ sound.names).mpr member, unended⟩
  · rintro ⟨key, phase, found, unended⟩
    exact ⟨(e, ⟨key, phase⟩), ⟨(Table.get?_eq_some_iff _ sound.names).mp found, unended⟩, rfl⟩

theorem Sound.unfinished_nodup (sound : s.Sound) : s.group.unfinished.Nodup :=
  Table.keys_filter_nodup s.group.executions (fun entry => !entry.2.phase.isEnded) sound.names

/-- The holders of keys are the executions that have not ended, so there are as many of them. -/
theorem Sound.inFlight_eq (sound : s.Sound) : s.group.inFlight = s.group.unfinished.length := by
  have member {key e : String} : (key, e) ∈ s.group.flights.entries ↔ s.group.Active e key := by
    rw [← Table.get?_eq_some_iff _ sound.keys, sound.holds_iff]
  -- An execution has one key, so no holder is counted twice.
  have distinct : (s.group.flights.entries.map Prod.snd).Nodup := by
    apply List.Nodup.map_on _ sound.keys.of_map
    rintro ⟨key, e⟩ one ⟨key', e'⟩ other same
    cases same
    obtain ⟨phase, found, _⟩ := member.mp one
    obtain ⟨phase', found', _⟩ := member.mp other
    rw [found] at found'
    cases found'
    rfl
  have same : (s.group.flights.entries.map Prod.snd).Perm s.group.unfinished := by
    apply (List.perm_ext_iff_of_nodup distinct sound.unfinished_nodup).mpr
    intro e
    rw [sound.mem_unfinished, List.mem_map]
    constructor
    · rintro ⟨⟨key, holder⟩, holding, rfl⟩
      exact ⟨key, member.mp holding⟩
    · rintro ⟨key, active⟩
      exact ⟨(key, e), member.mpr active, rfl⟩
  rw [← same.length_eq, List.length_map]
  rfl

theorem step_of_running (running : s.group.executions.get? e = some ⟨key, .running⟩)
    (ends : event.outcome? e = some o) :
    s.step event = some { s with
      group := { s.group with executions := s.group.executions.set e ⟨key, .ending o⟩ } } := by
  cases event with
  | finish other outcome =>
      obtain ⟨rfl, same⟩ := Option.ite_none_right_eq_some.mp ends
      cases same
      rw [step, Group.finish?_eq running, Option.map_some]
  | panic other message =>
      obtain ⟨rfl, same⟩ := Option.ite_none_right_eq_some.mp ends
      cases same
      rw [step, Group.finish?_eq running, Option.map_some]
  | _ => cases ends

theorem Sound.step_of_ending (sound : s.Sound)
    (ending : s.group.executions.get? e = some ⟨key, .ending o⟩) :
    s.step (.release e) = some { s with
      group := { s.group with
        flights := s.group.flights.erase key
        executions := s.group.executions.set e ⟨key, .ended o⟩ } } := by
  have holding := sound.held.holds e key _ ending rfl
  rw [step, Group.release?_eq ending, if_pos holding, Option.map_some]

theorem Step.releases (step : s.Step (.release e) t) (sound : s.Sound) :
    ∃ key, s.group.Active e key ∧ t.group.Ended e ∧ t.group.flights = s.group.flights.erase key := by
  cases step with
  | idle quiet _ _ => cases quiet
  | finish ends _ => cases ends
  | @release _ key o ending =>
      have holding := sound.held.holds e key _ ending rfl
      exact ⟨key, ⟨_, ending, rfl⟩, ⟨key, o, by simp⟩, if_pos holding⟩

theorem Step.holding (step : s.Step event t) (holding : s.group.flights.get? key = some e) :
    t.group.flights.get? key = some e ∨ event = .release e := by
  cases step with
  | @spawn c own _ _ _ free =>
      have differs : key ≠ own := Table.ne_of_get? holding free
      exact .inl (by simp [differs, holding])
  | @release other own o ending =>
      dsimp only
      split
      · rename_i held
        by_cases same : key = own
        · subst same
          rw [held] at holding
          cases holding
          exact .inr rfl
        · exact .inl (by simp [same, holding])
      · exact .inl holding
  | _ => exact .inl holding

theorem Step.ended_iff (step : s.Step event t) (sound : s.Sound) :
    t.group.Ended e ↔ s.group.Ended e ∨ event = .release e := by
  constructor
  · rintro ⟨key, o, found⟩
    have moved {other own : CallerId} {phase : Phase V}
        (found : (s.group.executions.set other ⟨own, phase⟩).get? e = some ⟨key, .ended o⟩) :
        s.group.Ended e ∨ e = other ∧ phase = .ended o := by
      rcases Table.get?_set_cases found with ⟨same, is⟩ | ⟨_, before⟩
      · exact .inr ⟨same, (Execution.mk.inj is).2⟩
      · exact .inl ⟨key, o, before⟩
    cases step with
    | spawn _ _ _ =>
        rcases moved found with was | ⟨_, other⟩
        · exact .inl was
        · cases other
    | finish _ _ =>
        rcases moved found with was | ⟨_, other⟩
        · exact .inl was
        · cases other
    | release _ =>
        rcases moved found with was | ⟨rfl, _⟩
        · exact .inl was
        · exact .inr rfl
    | _ => exact .inl ⟨key, o, found⟩
  · rintro (⟨key, o, found⟩ | rfl)
    · obtain ⟨phase, present, becomes⟩ := step.keeps sound found
      exact ⟨key, o, becomes.ended ▸ present⟩
    · obtain ⟨_, _, ended, _⟩ := step.releases sound
      exact ended

theorem Step.started_iff (step : s.Step event t) (sound : s.Sound) :
    (∃ phase, t.group.executions.get? e = some ⟨key, phase⟩) ↔
      (∃ phase, s.group.executions.get? e = some ⟨key, phase⟩) ∨
        ∃ context, event = .call e key context ∧ t.calls.get? e = some ⟨key, context, .waiting e⟩ := by
  constructor
  · rintro ⟨phase, found⟩
    have moved {other own : CallerId} {was now : Phase V}
        (present : s.group.executions.get? other = some ⟨own, was⟩)
        (found : (s.group.executions.set other ⟨own, now⟩).get? e = some ⟨key, phase⟩) :
        ∃ phase, s.group.executions.get? e = some ⟨key, phase⟩ := by
      rcases Table.get?_set_cases found with ⟨rfl, is⟩ | ⟨_, before⟩
      · cases is
        exact ⟨was, present⟩
      · exact ⟨phase, before⟩
    cases step with
    | @spawn c own context _ _ _ =>
        rcases Table.get?_set_cases found with ⟨rfl, is⟩ | ⟨_, before⟩
        · cases is
          exact .inr ⟨context, rfl, by simp⟩
        · exact .inl ⟨phase, before⟩
    | finish _ running => exact .inl (moved running found)
    | release ending => exact .inl (moved ending found)
    | _ => exact .inl ⟨phase, found⟩
  · rintro (⟨phase, found⟩ | ⟨context, rfl, waits⟩)
    · obtain ⟨phase', present, _⟩ := step.keeps sound found
      exact ⟨phase', present⟩
    · exact (step.sound sound).attached e _ e waits rfl

end State

theorem ended_iff (run : State.initial.run trace = some s) : s.group.Ended e ↔ .release e ∈ trace := by
  apply State.run_induction (fun trace s => s.group.Ended e ↔ .release e ∈ trace) _ _ run
  · constructor
    · rintro ⟨_, _, found⟩
      cases found
    · exact fun member => absurd member List.not_mem_nil
  · intro trace s event t run known stepped
    have step := State.step_spec stepped
    rw [step.ended_iff (State.sound_of_run run), known, List.mem_append, List.mem_singleton, eq_comm]

theorem started_iff (run : State.initial.run trace = some s) :
    (∃ phase, s.group.executions.get? e = some ⟨key, phase⟩) ↔
      ∃ context, Attached trace e key context e := by
  apply State.run_induction (fun trace s =>
    (∃ phase, s.group.executions.get? e = some ⟨key, phase⟩) ↔
      ∃ context, Attached trace e key context e) _ _ run
  · constructor
    · rintro ⟨_, found⟩
      cases found
    · rintro ⟨_, _, _, ⟨front, rest, split, _⟩, _⟩
      simp at split
  · intro trace s event t run known stepped
    have step := State.step_spec stepped
    rw [step.started_iff (State.sound_of_run run), known]
    constructor
    · rintro (⟨context, attached⟩ | ⟨context, rfl, waits⟩)
      · exact ⟨context, attached.append _⟩
      · exact ⟨context, s, t, happened_concat.mpr (.inr ⟨rfl, run⟩), stepped, waits⟩
    · rintro ⟨context, before, after, happened, stepped', waits⟩
      rcases happened_concat.mp happened with early | ⟨rfl, reached⟩
      · exact .inl ⟨context, before, after, early, stepped', waits⟩
      · rw [run] at reached
        cases reached
        rw [stepped] at stepped'
        cases stepped'
        exact .inr ⟨context, rfl, waits⟩

theorem active_iff (run : State.initial.run trace = some s) :
    s.group.Active e key ↔ (∃ context, Attached trace e key context e) ∧ .release e ∉ trace := by
  rw [← started_iff run, ← ended_iff run]
  constructor
  · intro active
    have ⟨phase, found, _⟩ := active
    exact ⟨⟨phase, found⟩, fun ended => ended.not_active key active⟩
  · rintro ⟨⟨phase, found⟩, going⟩
    refine ⟨phase, found, ?_⟩
    cases phase with
    | ended o => exact absurd ⟨key, o, found⟩ going
    | _ => rfl

theorem State.Sound.ended_of_run (sound : s.Sound) (run : s.run trace = some t) (ended : s.group.Ended e) :
    t.group.Ended e := by
  apply sound.preserves (·.group.Ended e) _ run ended
  intro s event t sound step ended
  exact (step.ended_iff sound).mpr (.inl ended)

theorem State.Sound.not_joins (sound : s.Sound) (ended : s.group.Ended e)
    (stepped : s.step (.call c key context) = some t) :
    t.calls.get? c ≠ some ⟨key, context, .waiting e⟩ := by
  intro waits
  have ⟨own, o, found⟩ := ended
  cases State.step_spec stepped with
  | idle quiet _ _ => cases quiet
  | finish ends _ => cases ends
  | refuse _ _ => simp at waits
  | join _ _ holding =>
      simp only [Table.get?_set, if_true, Option.some.injEq, Call.mk.injEq, true_and,
        CallPhase.waiting.injEq] at waits
      subst waits
      exact ended.not_active key (sound.holds_iff.mp holding)
  | spawn new _ _ =>
      simp only [Table.get?_set, if_true, Option.some.injEq, Call.mk.injEq, true_and,
        CallPhase.waiting.injEq] at waits
      subst waits
      rw [sound.fresh new] at found
      cases found

def Group.Gone (g : Group V) (e : CallerId) : Prop := ∀ key, g.flights.get? key ≠ some e

theorem State.Sound.gone_of_ended (sound : s.Sound) (ended : s.group.Ended e) : s.group.Gone e :=
  fun key holding => ended.not_active key (sound.holds_iff.mp holding)

theorem State.Step.ended_of_receive (step : s.Step (.receive c) t) {call : Call V}
    (present : s.calls.get? c = some call) (waiting : call.phase = .waiting e) : s.group.Ended e := by
  cases step with
  | idle quiet _ _ => cases quiet
  | finish ends _ => cases ends
  | receive present' waiting' ended =>
      rw [present] at present'
      cases present'
      rw [waiting] at waiting'
      cases waiting'
      exact ⟨_, _, ended⟩

/-- A key is held by the one execution of it that was started and not yet released, and as many keys
are held as there are such executions. Whichever way its loader ends, an execution then takes its own
key from the map and no other event does. Whoever receives its outcome finds that key gone, and nobody
joins it in any run from there. -/
theorem keys_follow_loaders (run : State.initial.run trace = some s) :
    (∀ e key, s.group.Active e key ↔
      (∃ context, Attached trace e key context e) ∧ .release e ∉ trace) ∧
    (∀ key, s.group.flights.contains key = true ↔ ∃! e, s.group.Active e key) ∧
    (∀ e e' key, s.group.Active e key → s.group.Active e' key → e = e') ∧
    (∀ e, e ∈ s.group.unfinished ↔ ∃ key, s.group.Active e key) ∧ s.group.unfinished.Nodup ∧
    s.group.inFlight = s.group.unfinished.length ∧
    (∀ e key event o, s.group.executions.get? e = some ⟨key, .running⟩ → event.outcome? e = some o →
      ∃ t u, s.step event = some t ∧ t.group.flights = s.group.flights ∧
        t.step (.release e) = some u ∧ u.group.flights = s.group.flights.erase key) ∧
    (∀ e t, s.step (.release e) = some t →
      ∃ key, s.group.Active e key ∧ t.group.flights = s.group.flights.erase key) ∧
    (∀ event t key e, s.step event = some t → s.group.flights.get? key = some e →
      t.group.flights.get? key = some e ∨ event = .release e) ∧
    ∀ c call e t, s.calls.get? c = some call → call.phase = .waiting e →
      s.step (.receive c) = some t → s.group.Gone e ∧
        ∀ more u, t.run more = some u → u.group.Gone e ∧
          ∀ other key context v, u.step (.call other key context) = some v →
            v.calls.get? other ≠ some ⟨key, context, .waiting e⟩ := by
  have sound := State.sound_of_run run
  refine ⟨fun e key => active_iff run, fun key => sound.contains_iff,
    fun e e' key => sound.active_unique, fun e => sound.mem_unfinished, sound.unfinished_nodup,
    sound.inFlight_eq, ?_, ?_, ?_, ?_⟩
  · intro e key event o running ends
    have stepped := State.step_of_running running ends
    have ending : (s.group.executions.set e ⟨key, .ending o⟩).get? e = some ⟨key, .ending o⟩ := by simp
    have released := ((State.step_spec stepped).sound sound).step_of_ending ending
    exact ⟨_, _, stepped, rfl, released, rfl⟩
  · intro e t stepped
    obtain ⟨key, active, _, erased⟩ := (State.step_spec stepped).releases sound
    exact ⟨key, active, erased⟩
  · intro event t key e stepped holding
    exact (State.step_spec stepped).holding holding
  · intro c call e t present waiting stepped
    have step := State.step_spec stepped
    have ended := step.ended_of_receive present waiting
    refine ⟨sound.gone_of_ended ended, ?_⟩
    intro more u run
    have after := step.sound sound
    have ended := after.ended_of_run run ((step.ended_iff sound).mpr (.inl ended))
    have last : u.Sound := after.preserves State.Sound (fun sound step _ => step.sound sound) run after
    exact ⟨last.gone_of_ended ended, fun other key context v stepped => last.not_joins ended stepped⟩

theorem keys_follow_second_loader :
    ∃ trace s, (State.initial : State Nat).run trace = some s ∧ (∃! e, s.group.Active e "k") ∧
      s.group.unfinished.length = 1 ∧ ∃ t, s.step (.receive "b") = some t ∧ s.group.Gone "a" := by
  let trace : List (Event Nat) :=
    [.token "t" none, .call "a" "k" ⟨"t", none⟩, .call "b" "k" ⟨"t", none⟩, .panic "a" "boom",
     .release "a", .call "c" "k" ⟨"t", none⟩]
  let s := ((State.initial : State Nat).run trace).get (by decide +kernel)
  have run : (State.initial : State Nat).run trace = some s := (Option.some_get _).symm
  have holding : s.group.flights.contains "k" = true := by decide +kernel
  have present : s.calls.get? "b" = some ⟨"k", ⟨"t", none⟩, .waiting "a"⟩ := by decide +kernel
  have receives : (s.step (.receive "b")).isSome = true := by decide +kernel
  obtain ⟨t, received⟩ := Option.isSome_iff_exists.mp receives
  obtain ⟨_, contains_iff, _, _, _, inFlight, _, _, _, gone⟩ := keys_follow_loaders run
  have one : s.group.inFlight = 1 := by decide +kernel
  exact ⟨trace, s, run, (contains_iff "k").mp holding, inFlight.symm.trans one, t, received,
    (gone "b" _ "a" t present rfl received).1⟩

end PlaceGateway.Flight
