import PlaceGateway.Proofs.Flight.Keys
/-! Delivery: a caller is refused by its own context, or is attached to one execution of its key from
before that ends, and gets what its loader came to. -/

namespace PlaceGateway.Flight

variable {V : Type} {trace : List (Event V)} {s t before : State V} {event : Event V}
  {c e key : String} {context : CallContext} {o : Outcome V}

namespace State

theorem Step.refuses (step : s.Step (.call c key context) t) {err : CallError}
    (done : context.check s.tokens s.now = some err) :
    t.group = s.group ∧ t.calls.get? c = some ⟨key, context, .returned (.error err)⟩ := by
  cases step with
  | idle quiet _ _ => cases quiet
  | finish ends _ => cases ends
  | refuse _ done' =>
      rw [done] at done'
      cases done'
      exact ⟨rfl, by simp⟩
  | join _ going _ =>
      rw [done] at going
      cases going
  | spawn _ going _ =>
      rw [done] at going
      cases going

theorem Step.admits (step : s.Step (.call c key context) t) (sound : s.Sound)
    (going : context.check s.tokens s.now = none) :
    ∃ e, t.calls.get? c = some ⟨key, context, .waiting e⟩ ∧ t.group.Active e key := by
  cases step with
  | idle quiet _ _ => cases quiet
  | finish ends _ => cases ends
  | refuse _ done =>
      rw [going] at done
      cases done
  | @join _ e _ _ _ _ holding =>
      obtain ⟨phase, found, unended⟩ := sound.held.held key e holding
      exact ⟨e, by simp, phase, found, unended⟩
  | spawn _ _ _ => exact ⟨c, by simp, .running, by simp, rfl⟩

theorem run_receive (waits : s.calls.get? c = some ⟨key, context, .waiting e⟩)
    (going : context.done? .cancellation s.tokens s.now = none)
    (ended : s.group.executions.get? e = some ⟨key, .ended o⟩) :
    ∃ t, s.run [.receive c] = some t ∧ t.result? c = some o := by
  refine ⟨_, ?_, result?_setPhase s c ⟨key, context, .waiting e⟩ o⟩
  rw [run, step, receive?_eq waits rfl going ended]
  rfl

end State

theorem Attached.active (run : State.initial.run trace = some s)
    (attached : Attached trace c key context e) :
    ∃ before after, Happened trace before (.call c key context) ∧
      before.step (.call c key context) = some after ∧ after.group.Active e key := by
  obtain ⟨before, after, happened, stepped, waits⟩ := attached
  refine ⟨before, after, happened, stepped, ?_⟩
  have sound := (happened.stepped run).1
  have step := State.step_spec stepped
  cases done : context.check before.tokens before.now with
  | some err =>
      rw [(step.refuses done).2] at waits
      cases waits
  | none =>
      obtain ⟨e', waits', active⟩ := step.admits sound done
      rw [waits] at waits'
      cases waits'
      exact active

theorem Attached.called (run : State.initial.run trace = some s)
    (attached : Attached trace c key context e) :
    ∃ phase, s.calls.get? c = some ⟨key, context, phase⟩ := by
  obtain ⟨before, after, happened, _⟩ := attached
  exact (recalled_of_run run).called happened

theorem refused (run : State.initial.run trace = some s) {err : CallError}
    (happened : Happened trace before (.call c key context))
    (done : context.check before.tokens before.now = some err) :
    (∃ after, before.step (.call c key context) = some after ∧ after.group = before.group) ∧
      (∀ key context e, ¬ Attached trace c key context e) ∧ s.result? c = some (.error err) := by
  obtain ⟨sound, after, rest, stepped, onward⟩ := happened.stepped run
  have step := State.step_spec stepped
  obtain ⟨group, call⟩ := step.refuses done
  refine ⟨⟨after, stepped, group⟩, ?_, ?_⟩
  · rintro key' context' e ⟨before', after', happened', stepped', waits⟩
    obtain ⟨rfl, rfl, rfl⟩ := (recalled_of_run run).once happened happened'
    rw [stepped] at stepped'
    cases stepped'
    rw [call] at waits
    cases waits
  · have result : after.result? c = some (.error err) := by simp [State.result?, call]
    apply (step.sound sound).preserves (·.result? c = some (.error err)) _ onward result
    intro s event t _ step result
    exact step.result result

theorem admitted (run : State.initial.run trace = some s)
    (happened : Happened trace before (.call c key context))
    (going : context.check before.tokens before.now = none) :
    ∃! e, Attached trace c key context e := by
  obtain ⟨sound, after, _, stepped, _⟩ := happened.stepped run
  obtain ⟨e, waits, _⟩ := (State.step_spec stepped).admits sound going
  have attached : Attached trace c key context e := ⟨before, after, happened, stepped, waits⟩
  exact ⟨e, attached, fun other also => also.unique run attached⟩

theorem Attached.origin (run : State.initial.run trace = some s)
    (attached : Attached trace c key context e) {r : Outcome V} (returned : s.result? c = some r) :
    (∃ err, r = .error err ∧ context.Causes s.tokens s.now err) ∨
      s.group.Ended e ∧ outcomes trace e = [r] := by
  have recalled := recalled_of_run run
  obtain ⟨call, present, answered⟩ := State.returned_of_result? returned
  obtain ⟨phase, own⟩ := attached.called run
  rw [present] at own
  cases own
  have from_ := recalled.answered c _ present
  rw [Answered, answered] at from_
  rcases from_ with refused | ⟨e', attached', ended⟩
  · exact .inl refused
  · cases attached.unique run attached'
    exact .inr ⟨⟨_, _, ended⟩, by simp [recalled.outcomes, State.told, ended, Phase.outcome?]⟩

theorem outcomes_eq (run : State.initial.run trace = some s) (member : event ∈ trace)
    (ends : event.outcome? e = some o) : outcomes trace e = [o] := by
  have present : o ∈ outcomes trace e := List.mem_filterMap.mpr ⟨event, member, ends⟩
  rw [(recalled_of_run run).outcomes, State.told] at present ⊢
  rw [Option.mem_toList.mp present, Option.toList_some]

/-- A caller that waits can always be answered: by its own context once that is done, and else by its
execution, whose loader can end in every way until it has ended. -/
theorem waiting_progress (run : State.initial.run trace = some s)
    (waits : s.calls.get? c = some ⟨key, context, .waiting e⟩) :
    (∀ choice err, context.done? choice s.tokens s.now = some err →
      ∃ t, s.step (.giveUp c choice) = some t ∧ t.result? c = some (.error err)) ∧
    (outcomes trace e = [] → ∀ event o, event.outcome? e = some o → ∃ t, s.step event = some t) ∧
    ∀ o, outcomes trace e = [o] → context.done? .cancellation s.tokens s.now = none →
      ∃ more t, more.Sublist [.release e] ∧ s.run (more ++ [.receive c]) = some t ∧
        t.result? c = some o := by
  have sound := State.sound_of_run run
  obtain ⟨phase, found⟩ := sound.attached c _ e waits rfl
  have told := (recalled_of_run run).outcomes e
  rw [State.told, found, Option.bind_some] at told
  refine ⟨?_, ?_, ?_⟩
  · intro choice err done
    have stepped := State.giveUp?_eq waits rfl done
    exact ⟨_, stepped, State.result?_setPhase _ _ _ _⟩
  · intro none event o ends
    rw [told] at none
    cases phase with
    | running => exact ⟨_, State.step_of_running found ends⟩
    | ending _ => cases none
    | ended _ => cases none
  · intro o one going
    rw [told] at one
    cases phase with
    | running => cases one
    | ending o =>
        cases one
        obtain ⟨group, ended, released⟩ : ∃ group : Group V,
            group.executions.get? e = some ⟨key, .ended o⟩ ∧
              s.step (.release e) = some { s with group } :=
          ⟨_, by simp, sound.step_of_ending found⟩
        obtain ⟨t, received, result⟩ := State.run_receive (s := { s with group }) waits going ended
        refine ⟨[.release e], t, List.Sublist.refl _, ?_, result⟩
        rw [List.singleton_append, State.run, released, Option.bind_some]
        exact received
    | ended o =>
        cases one
        obtain ⟨t, received, result⟩ := State.run_receive waits going found
        exact ⟨[], t, List.nil_sublist _, received, result⟩

/-- A call whose context is done gets the error of its context and leaves the group as it is. Every
other call is attached to one execution, which is of its key and has not ended then. What a caller gets
from then on is the error of its own context, or what the loader of that execution ended with, and it
can always come to one of them. So callers of one execution get the same while their contexts are not
done, and a panic is told to all of them. -/
theorem outcomes_reach_their_callers (run : State.initial.run trace = some s) :
    (∀ c key context before err, Happened trace before (.call c key context) →
      context.check before.tokens before.now = some err →
        (∃ after, before.step (.call c key context) = some after ∧ after.group = before.group) ∧
          (∀ key context e, ¬ Attached trace c key context e) ∧ s.result? c = some (.error err)) ∧
    (∀ c key context before, Happened trace before (.call c key context) →
      context.check before.tokens before.now = none → ∃! e, Attached trace c key context e) ∧
    (∀ c key context e, Attached trace c key context e →
      (∃ before after, Happened trace before (.call c key context) ∧
        before.step (.call c key context) = some after ∧ after.group.Active e key) ∧
      ∀ r, s.result? c = some r → (∃ err, r = .error err ∧ context.Causes s.tokens s.now err) ∨
        s.group.Ended e ∧ outcomes trace e = [r]) ∧
    (∀ e message, .panic e message ∈ trace →
      outcomes trace e = [.error (.internal (.loaderPanicked message))]) ∧
    (∀ c c' key key' context context' e r r', Attached trace c key context e →
      Attached trace c' key' context' e → context.check s.tokens s.now = none →
        context'.check s.tokens s.now = none → s.result? c = some r → s.result? c' = some r' → r = r') ∧
    ∀ c key context e, s.calls.get? c = some ⟨key, context, .waiting e⟩ →
      (∀ choice err, context.done? choice s.tokens s.now = some err →
        ∃ t, s.step (.giveUp c choice) = some t ∧ t.result? c = some (.error err)) ∧
      (outcomes trace e = [] → ∀ event o, event.outcome? e = some o → ∃ t, s.step event = some t) ∧
      ∀ o, outcomes trace e = [o] → context.done? .cancellation s.tokens s.now = none →
        ∃ more t, more.Sublist [.release e] ∧ s.run (more ++ [.receive c]) = some t ∧
          t.result? c = some o := by
  refine ⟨?_, ?_, ?_, ?_, ?_, ?_⟩
  · intro c key context before err happened done
    exact refused run happened done
  · intro c key context before happened going
    exact admitted run happened going
  · intro c key context e attached
    exact ⟨attached.active run, fun r returned => attached.origin run returned⟩
  · intro e message member
    exact outcomes_eq run member (if_pos rfl)
  · intro c c' key key' context context' e r r' attached attached' going going' returned returned'
    have told := (attached.origin run returned).resolve_left fun ⟨_, _, causes⟩ =>
      CallContext.not_causes_of_check going causes
    have told' := (attached'.origin run returned').resolve_left fun ⟨_, _, causes⟩ =>
      CallContext.not_causes_of_check going' causes
    exact (List.cons.inj (told.2.symm.trans told'.2)).1
  · intro c key context e waits
    exact waiting_progress run waits

theorem outcomes_reach_callers_of_two_loaders :
    ∃ trace s, (State.initial : State Nat).run trace = some s ∧
      outcomes trace "a" = [.error (.internal (.loaderPanicked "boom"))] ∧
      s.result? "a" = some (.error .cancelled) ∧
      ∃ more t, s.run (more ++ [.receive "b"]) = some t ∧
        t.result? "b" = some (.error (.internal (.loaderPanicked "boom"))) := by
  let trace : List (Event Nat) :=
    [.token "t" none, .token "u" none, .call "a" "k" ⟨"t", none⟩, .call "b" "k" ⟨"u", none⟩,
     .panic "a" "boom", .cancel "t", .release "a", .call "c" "k" ⟨"u", none⟩, .finish "c" (.ok 7),
     .giveUp "a" .cancellation]
  let s := ((State.initial : State Nat).run trace).get (by decide +kernel)
  have run : (State.initial : State Nat).run trace = some s := (Option.some_get _).symm
  have result : s.result? "a" = some (.error .cancelled) := by decide +kernel
  have waits : s.calls.get? "b" = some ⟨"k", ⟨"u", none⟩, .waiting "a"⟩ := by decide +kernel
  have going : (CallContext.mk "u" none).done? .cancellation s.tokens s.now = none := by
    decide +kernel
  obtain ⟨_, _, _, panics, _, progress⟩ := outcomes_reach_their_callers run
  have told := panics "a" "boom" (by simp [trace])
  obtain ⟨more, t, _, received, answer⟩ := (progress "b" "k" _ "a" waits).2.2 _ told going
  exact ⟨trace, s, run, told, result, more, t, received, answer⟩

end PlaceGateway.Flight
