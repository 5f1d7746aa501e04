import Mathlib.Tactic.ByContra
import PlaceGateway.Proofs.Flight.Step
/-! A context that is checked, and the same context around work that is polled. The check goes by the clock
and asks for cancellation first; the polled context waits for a timer, which fires on whole milliseconds,
and sees either of two signals that are both there. -/

namespace PlaceGateway.CallContext

variable {α : Type} {ctx : CallContext} {ts : Tokens} {now : Instant} {err : CallError}

/-- What a caller meets when it is polled: the signal that it sees first, the tokens, the time, and its work
if that is finished. -/
structure Poll (α : Type) where
  choice : Choice
  tokens : Tokens
  now : Instant
  work : Option (Except CallError α)

def result? (ctx : CallContext) (polls : List (Poll α)) : Option (Except CallError α) :=
  polls.findSome? fun poll => ctx.run? poll.choice poll.tokens poll.now poll.work

/-- A whole millisecond lies between the deadline and now. -/
def Fired (ctx : CallContext) (now : Instant) : Prop :=
  ∃ deadline n, ctx.deadline = some deadline ∧ deadline ≤ n * 10 ^ 6 ∧ n * 10 ^ 6 ≤ now

theorem hasFired_iff (now deadline : Nat) :
    Instant.hasFired now deadline = true ↔ ∃ n, deadline ≤ n * 10 ^ 6 ∧ n * 10 ^ 6 ≤ now := by
  rw [Instant.hasFired, decide_eq_true_eq, Instant.fireTick, Instant.tick]
  constructor
  · intro reached
    exact ⟨now / 10 ^ 6, by omega, by omega⟩
  · rintro ⟨n, after, before⟩
    omega

theorem any_hasFired_iff (ctx : CallContext) (now : Instant) :
    ctx.deadline.any (Instant.hasFired now) = true ↔ ctx.Fired now := by
  rw [Option.any_eq_true]
  constructor
  · rintro ⟨deadline, own, fired⟩
    obtain ⟨n, after, before⟩ := (hasFired_iff now deadline).mp fired
    exact ⟨deadline, n, own, after, before⟩
  · rintro ⟨deadline, n, own, after, before⟩
    exact ⟨deadline, own, (hasFired_iff now deadline).mpr ⟨n, after, before⟩⟩

theorem fired_iff_of_whole {n : Nat} (whole : ctx.deadline = some (n * 10 ^ 6)) :
    ctx.Fired now ↔ n * 10 ^ 6 ≤ now := by
  constructor
  · rintro ⟨deadline, m, own, after, before⟩
    rw [whole] at own
    cases own
    exact Nat.le_trans after before
  · exact fun past => ⟨_, n, whole, Nat.le_refl _, past⟩

theorem result?_of_done {choice : Choice} (done : ctx.done? choice ts now = some err)
    (work : Option (Except CallError α)) (later : List (Poll α)) :
    ctx.result? (⟨choice, ts, now, work⟩ :: later) = some (.error err) := by
  rw [result?, List.findSome?_cons, run?, done]

theorem result?_of_going {choice : Choice} (going : ctx.done? choice ts now = none) (r : Except CallError α)
    (later : List (Poll α)) : ctx.result? (⟨choice, ts, now, some r⟩ :: later) = some r := by
  rw [result?, List.findSome?_cons, run?, going]

theorem check_of_cancelled (cancelled : ts.isCancelled ctx.token = true) :
    ctx.check ts now = some .cancelled := by
  rw [check, if_pos cancelled]

theorem check_of_live (live : ts.isCancelled ctx.token = false) (checked : ctx.check ts now = some err) :
    err = .deadlineExceeded := by
  rw [check, live] at checked
  split at checked
  · contradiction
  · split at checked
    · exact (Option.some.inj checked).symm
    · cases checked

theorem any_hasFired_eq_false (early : ¬ ctx.Fired now) :
    ctx.deadline.any (Instant.hasFired now) = false :=
  Bool.eq_false_iff.mpr fun fired => early ((any_hasFired_iff ctx now).mp fired)

theorem done?_of_neither (live : ts.isCancelled ctx.token = false) (early : ¬ ctx.Fired now) (choice : Choice) :
    ctx.done? choice ts now = none := by
  unfold done?
  rw [live, any_hasFired_eq_false early]

theorem done?_of_both (cancelled : ts.isCancelled ctx.token = true) (fired : ctx.Fired now) :
    ctx.done? .cancellation ts now = some .cancelled ∧
      ctx.done? .deadline ts now = some .deadlineExceeded := by
  unfold done?
  rw [cancelled, (any_hasFired_iff ctx now).mpr fired]
  exact ⟨rfl, rfl⟩

theorem done?_of_alone (alone : ts.isCancelled ctx.token = true ↔ ¬ ctx.Fired now)
    (checked : ctx.check ts now = some err) (choice : Choice) : ctx.done? choice ts now = some err := by
  unfold done?
  cases cancelled : ts.isCancelled ctx.token with
  | true =>
      rw [check_of_cancelled cancelled] at checked
      cases checked
      rw [any_hasFired_eq_false (alone.mp cancelled)]
  | false =>
      have fired : ctx.Fired now := by
        by_contra early
        rw [alone.mpr early] at cancelled
        cases cancelled
      rw [check_of_live cancelled checked, (any_hasFired_iff ctx now).mpr fired]

/-- Finished work around which the check finds nothing is what a caller gets. When the check finds an error,
the caller is sure to get it exactly if the context is cancelled or its timer has fired, and not both. A
context whose timer has not fired yet lets finished work through after its deadline, and one that is both
cancelled and expired gives either error. -/
theorem run_agrees_with_check_iff (ctx : CallContext) (ts : Tokens) (now : Instant) :
    (ctx.check ts now = none → ∀ (choice : Choice) (r : Except CallError α) (later : List (Poll α)),
      ctx.result? (⟨choice, ts, now, some r⟩ :: later) = some r) ∧
    (∀ err, ctx.check ts now = some err →
      ((∀ (choice : Choice) (work : Option (Except CallError α)) (later : List (Poll α)),
          ctx.result? (⟨choice, ts, now, work⟩ :: later) = some (.error err)) ↔
        (ts.isCancelled ctx.token = true ↔ ¬ ctx.Fired now))) ∧
    (ctx.check ts now = some .deadlineExceeded → ¬ ctx.Fired now →
      ∀ (choice : Choice) (r : Except CallError α) (later : List (Poll α)),
        ctx.result? (⟨choice, ts, now, some r⟩ :: later) = some r) ∧
    (ts.isCancelled ctx.token = true → ctx.Fired now →
      ∀ (work : Option (Except CallError α)) (later : List (Poll α)),
        ctx.result? (⟨.cancellation, ts, now, work⟩ :: later) = some (.error .cancelled) ∧
          ctx.result? (⟨.deadline, ts, now, work⟩ :: later) = some (.error .deadlineExceeded)) := by
  refine ⟨fun going choice => ?_, fun err checked => ⟨fun sure => ?_, fun alone choice => ?_⟩,
    fun checked early choice => ?_, fun cancelled fired work later => ?_⟩
  · exact result?_of_going (done?_of_check going choice)
  · constructor
    · intro cancelled fired
      have second := sure .deadline none []
      rw [check_of_cancelled cancelled] at checked
      cases checked
      rw [result?_of_done (done?_of_both cancelled fired).2] at second
      cases second
    · intro early
      by_contra live
      have silent := sure .cancellation none []
      rw [result?, List.findSome?_cons, run?, done?_of_neither (Bool.eq_false_iff.mpr live) early] at silent
      cases silent
  · exact result?_of_done (done?_of_alone alone checked choice)
  · have live : ts.isCancelled ctx.token = false := by
      by_contra cancelled
      rw [check_of_cancelled (eq_true_of_ne_false cancelled)] at checked
      cases checked
    exact result?_of_going (done?_of_neither live early choice)
  · obtain ⟨first, second⟩ := done?_of_both cancelled fired
    exact ⟨result?_of_done first work later, result?_of_done second work later⟩

theorem run_agrees_with_check_at_deadline :
    let ctx : CallContext := ⟨"c", some (50 * 10 ^ 6)⟩
    let ts : Tokens := Tokens.root .empty "c"
    ctx.result? [⟨.cancellation, ts, 50 * 10 ^ 6, some (.ok 7)⟩] = some (.error .deadlineExceeded) ∧
      ctx.result? [⟨.deadline, ts, 50 * 10 ^ 6 - 1, some (.ok 7)⟩] = some (.ok 7) := by
  intro ctx ts
  have atDeadline := run_agrees_with_check_iff (α := Nat) ctx ts (50 * 10 ^ 6)
  have before := run_agrees_with_check_iff (α := Nat) ctx ts (50 * 10 ^ 6 - 1)
  have fired : ctx.Fired (50 * 10 ^ 6) := (fired_iff_of_whole rfl).mpr (Nat.le_refl _)
  have alone : ts.isCancelled ctx.token = true ↔ ¬ ctx.Fired (50 * 10 ^ 6) :=
    iff_of_false (by decide) (not_not.mpr fired)
  exact ⟨(atDeadline.2.1 .deadlineExceeded (by decide)).mpr alone .cancellation (some (.ok 7)) [],
    before.1 (by decide) .deadline (.ok 7) []⟩

/-- A nanosecond after a deadline that lies between two milliseconds, the check fails and finished work still
comes through. A cancelled context may tell of its deadline instead, when that has passed as well. -/
theorem expired_context_runs_on :
    ¬ (∀ (timeout : Duration) (ctx : CallContext), (CallContext.mk "c" none).withTimeout? 0 timeout = some ctx →
      ∀ (now : Instant) (err : CallError), ctx.check (Tokens.root .empty "c") now = some err →
        ∀ (choice : Choice) (work : Option (Except CallError Unit)) (later : List (Poll Unit)),
          ctx.result? (⟨choice, Tokens.root .empty "c", now, work⟩ :: later) = some (.error err)) ∧
    ¬ (∀ (timeout : Duration) (ctx : CallContext), (CallContext.mk "c" none).withTimeout? 0 timeout = some ctx →
      ∀ (now : Instant) (err : CallError),
        ctx.check ((Tokens.root .empty "c").cancel "c") now = some err →
        ∀ (choice : Choice) (work : Option (Except CallError Unit)) (later : List (Poll Unit)),
          ctx.result? (⟨choice, (Tokens.root .empty "c").cancel "c", now, work⟩ :: later) =
            some (.error err)) := by
  constructor
  · intro claim
    have told := claim (.ofNanos 1) ⟨"c", some 1⟩ (by decide) 1 .deadlineExceeded (by decide) .cancellation
      (some (.ok ())) []
    cases told
  · intro claim
    have told := claim (.ofMillis 1) ⟨"c", some (10 ^ 6)⟩ (by decide) (10 ^ 6) .cancelled (by decide) .deadline
      none []
    cases told

end PlaceGateway.CallContext
