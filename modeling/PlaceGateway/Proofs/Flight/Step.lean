import PlaceGateway.Flight
/-! What each step of coalesced calls needs, and what it changes. -/

namespace PlaceGateway

namespace Tokens

variable {ts : Tokens} {id other : TokenId}

theorem isCancelled_set_of_absent (token : Token) (absent : ts.contains id = false)
    (cancelled : ts.isCancelled other = true) : Tokens.isCancelled (ts.set id token) other = true := by
  rw [isCancelled, Table.get?_set]
  by_cases same : other = id
  · subst same
    rw [isCancelled, Option.any_eq_true] at cancelled
    obtain ⟨token, found, _⟩ := cancelled
    rw [Table.contains, found] at absent
    cases absent
  · rwa [if_neg same]

theorem lookup_mark (id : TokenId) (marked : List TokenId) (entries : List (TokenId × Token))
    (token : Token) (found : entries.lookup other = some token) :
    ∃ after, (mark id marked entries).lookup other = some after ∧
      (token.cancelled = true → after.cancelled = true) := by
  induction entries generalizing marked with
  | nil => cases found
  | cons entry rest ih =>
      obtain ⟨own, first⟩ := entry
      rw [Table.lookup_cons_ite] at found
      rw [mark]
      split
      · rw [Table.lookup_cons_ite]
        split
        · exact ⟨_, rfl, fun _ => rfl⟩
        · rename_i differs
          rw [if_neg differs] at found
          exact ih _ found
      · rw [Table.lookup_cons_ite]
        split
        · rename_i same
          rw [if_pos same] at found
          cases found
          exact ⟨_, rfl, fun was => was⟩
        · rename_i differs
          rw [if_neg differs] at found
          exact ih _ found

theorem isCancelled_cancel (id : TokenId) (cancelled : ts.isCancelled other = true) :
    (ts.cancel id).isCancelled other = true := by
  rw [isCancelled, Option.any_eq_true] at cancelled
  obtain ⟨token, found, was⟩ := cancelled
  obtain ⟨after, kept, stays⟩ := lookup_mark id [] ts.entries token found
  rw [isCancelled, Option.any_eq_true]
  exact ⟨after, kept, stays was⟩

theorem contains_cancel (id : TokenId) (was : ts.contains other = true) :
    (ts.cancel id).contains other = true := by
  obtain ⟨token, found⟩ := Option.isSome_iff_exists.mp was
  obtain ⟨after, kept, _⟩ := lookup_mark id [] ts.entries token found
  exact Option.isSome_iff_exists.mpr ⟨after, kept⟩

end Tokens

theorem Instant.le_of_add? {t t' : Instant} {d : Duration} (reached : t.add? d = some t') : t ≤ t' := by
  obtain ⟨_, rfl⟩ := Instant.add?_eq_some_iff.mp reached
  exact Nat.le_add_right t d.nanos

namespace CallContext

/-- The context is the reason for the error. -/
def Causes (ctx : CallContext) (ts : Tokens) (now : Instant) (err : CallError) : Prop :=
  err = .cancelled ∧ ts.isCancelled ctx.token = true ∨
    err = .deadlineExceeded ∧ ∃ deadline, ctx.deadline = some deadline ∧ deadline ≤ now

variable {ctx : CallContext} {ts ts' : Tokens} {now now' : Instant} {err : CallError}

theorem Causes.mono (causes : ctx.Causes ts now err)
    (tokens : ts.isCancelled ctx.token = true → ts'.isCancelled ctx.token = true)
    (later : now ≤ now') : ctx.Causes ts' now' err := by
  rcases causes with ⟨rfl, cancelled⟩ | ⟨rfl, deadline, own, past⟩
  · exact .inl ⟨rfl, tokens cancelled⟩
  · exact .inr ⟨rfl, deadline, own, Nat.le_trans past later⟩

theorem causes_of_check (done : ctx.check ts now = some err) : ctx.Causes ts now err := by
  rw [check] at done
  split at done
  · rename_i cancelled
    cases done
    exact .inl ⟨rfl, cancelled⟩
  · split at done
    · rename_i past
      cases done
      obtain ⟨deadline, own, le⟩ := Option.any_eq_true _ _ |>.mp past
      exact .inr ⟨rfl, deadline, own, of_decide_eq_true le⟩
    · cases done

theorem not_causes_internal (cause : InternalCause) : ¬ ctx.Causes ts now (.internal cause) := by
  rintro (⟨other, _⟩ | ⟨other, _⟩) <;> cases other

theorem not_causes_of_check (going : ctx.check ts now = none) : ¬ ctx.Causes ts now err := by
  rw [check] at going
  split at going
  · cases going
  · rename_i alive
    split at going
    · cases going
    · rename_i early
      rintro (⟨_, cancelled⟩ | ⟨_, deadline, own, past⟩)
      · exact alive cancelled
      · exact early ((Option.any_eq_true _ _).mpr ⟨deadline, own, decide_eq_true past⟩)

theorem le_of_hasFired {deadline now : Nat} (fired : Instant.hasFired now deadline = true) :
    deadline ≤ now := by
  have reached : Instant.fireTick deadline ≤ Instant.tick now := of_decide_eq_true fired
  rw [Instant.fireTick, Instant.tick] at reached
  omega

theorem causes_of_done? {choice : Choice} (done : ctx.done? choice ts now = some err) :
    ctx.Causes ts now err := by
  have deadline (fired : ctx.deadline.any (Instant.hasFired now) = true) :
      ∃ deadline, ctx.deadline = some deadline ∧ deadline ≤ now := by
    obtain ⟨deadline, own, due⟩ := Option.any_eq_true _ _ |>.mp fired
    exact ⟨deadline, own, le_of_hasFired due⟩
  unfold done? at done
  cases cancelled : ts.isCancelled ctx.token <;>
    cases fired : ctx.deadline.any (Instant.hasFired now) <;> rw [cancelled, fired] at done
  · cases done
  · cases done
    exact .inr ⟨rfl, deadline fired⟩
  · cases done
    exact .inl ⟨rfl, cancelled⟩
  · cases choice with
    | cancellation =>
        cases done
        exact .inl ⟨rfl, cancelled⟩
    | deadline =>
        cases done
        exact .inr ⟨rfl, deadline fired⟩

theorem done?_of_check (going : ctx.check ts now = none) (choice : Choice) :
    ctx.done? choice ts now = none := by
  cases done : ctx.done? choice ts now with
  | none => rfl
  | some err => exact absurd (causes_of_done? done) (not_causes_of_check going)

end CallContext

namespace Flight.Phase

def isRunning {V : Type} : Phase V → Bool
  | running => true
  | _ => false

def isEnded {V : Type} : Phase V → Bool
  | ended _ => true
  | _ => false

def outcome? {V : Type} : Phase V → Option (Outcome V)
  | running => none
  | ending o | ended o => some o

def Becomes {V : Type} (phase phase' : Phase V) : Prop :=
  phase = running ∨ phase' = phase ∨ ∃ o, phase = ending o ∧ phase' = ended o

theorem Becomes.outcome? {V : Type} {phase phase' : Phase V} (becomes : phase.Becomes phase')
    {o : Outcome V} (told : phase.outcome? = some o) : phase'.outcome? = some o := by
  rcases becomes with rfl | rfl | ⟨o', rfl, rfl⟩
  · cases told
  · exact told
  · exact told

theorem Becomes.ended {V : Type} {phase' : Phase V} {o : Outcome V} (becomes : (ended o).Becomes phase') :
    phase' = ended o := by
  rcases becomes with running | same | ⟨o', ending, _⟩
  · cases running
  · exact same
  · cases ending

end Flight.Phase

theorem Flight.Group.finish?_eq {V : Type} {g : Group V} {e : CallerId} {key : String}
    (running : g.executions.get? e = some ⟨key, .running⟩) (o : Outcome V) :
    g.finish? e o = some { g with executions := g.executions.set e ⟨key, .ending o⟩ } := by
  rw [finish?, running]

theorem Flight.Group.release?_eq {V : Type} {g : Group V} {e : CallerId} {key : String} {o : Outcome V}
    (ending : g.executions.get? e = some ⟨key, .ending o⟩) :
    g.release? e = some { g with
      flights := if g.flights.get? key = some e then g.flights.erase key else g.flights
      executions := g.executions.set e ⟨key, .ended o⟩ } := by
  rw [release?, ending]

theorem Flight.Group.ended_of_outcome? {V : Type} {g : Group V} {e : CallerId} {o : Outcome V}
    (delivered : g.outcome? e = some o) : ∃ key, g.executions.get? e = some ⟨key, .ended o⟩ := by
  rw [outcome?] at delivered
  split at delivered
  · rename_i key _ found
    cases delivered
    exact ⟨key, found⟩
  · cases delivered

namespace Flight.State

variable {V : Type} {s t : State V} {c : CallerId}

theorem token?_iff {id : TokenId} {parent : Option TokenId} : s.token? id parent = some t ↔
    s.tokens.contains id = false ∧ parent.all s.tokens.contains = true ∧
      t = { s with tokens := s.tokens.set id ⟨parent, parent.any s.tokens.isCancelled⟩ } := by
  unfold token?
  cases s.tokens.contains id with
  | true => simp
  | false =>
      cases parent with
      | none => simp [Tokens.root, eq_comm]
      | some p => cases known : s.tokens.contains p <;> simp [Tokens.child, known, eq_comm]

theorem token?_spec {id : TokenId} {parent : Option TokenId} (stepped : s.token? id parent = some t) :
    ∃ token, s.tokens.contains id = false ∧ t = { s with tokens := s.tokens.set id token } := by
  obtain ⟨absent, _, made⟩ := token?_iff.mp stepped
  exact ⟨_, absent, made⟩

theorem call?_spec {key : String} {context : CallContext} (stepped : s.call? c key context = some t) :
    s.calls.get? c = none ∧
      ((∃ err, context.check s.tokens s.now = some err ∧
          t = { s with calls := s.calls.set c ⟨key, context, .returned (.error err)⟩ }) ∨
        context.check s.tokens s.now = none ∧
          ((∃ e, s.group.flights.get? key = some e ∧
              t = { s with
                group := { s.group with shared := s.group.shared + 1 }
                calls := s.calls.set c ⟨key, context, .waiting e⟩ }) ∨
            s.group.flights.get? key = none ∧
              t = { s with
                group := { s.group with
                  flights := s.group.flights.set key c
                  executions := s.group.executions.set c ⟨key, .running⟩ }
                calls := s.calls.set c ⟨key, context, .waiting c⟩ })) := by
  rw [call?] at stepped
  split at stepped
  · cases stepped
  · rename_i admitted
    have fresh : s.calls.get? c = none := by
      rw [Bool.or_eq_true, not_or, Table.contains] at admitted
      simpa using admitted.1
    refine ⟨fresh, ?_⟩
    split at stepped
    · rename_i err done
      cases stepped
      exact .inl ⟨err, done, rfl⟩
    · rename_i going
      cases stepped
      refine .inr ⟨going, ?_⟩
      cases flight : s.group.flights.get? key with
      | some e => exact .inl ⟨e, rfl, rfl⟩
      | none => exact .inr ⟨rfl, rfl⟩

theorem call?_eq {key : String} {context : CallContext} (new : s.calls.get? c = none)
    (known : s.tokens.contains context.token = true) (going : context.check s.tokens s.now = none) :
    s.call? c key context = some { s with
      group := (s.group.enter c key).1
      calls := s.calls.set c ⟨key, context, .waiting (s.group.enter c key).2⟩ } := by
  have free : s.calls.contains c = false := by
    rw [Table.contains, new]
    rfl
  have admitted : ¬ (s.calls.contains c || !s.tokens.contains context.token) = true := by
    rw [free, known]
    decide
  rw [call?, if_neg admitted, going]

theorem receive?_spec (stepped : s.receive? c = some t) :
    ∃ call e o, s.calls.get? c = some call ∧ call.phase = .waiting e ∧
      call.context.done? .cancellation s.tokens s.now = none ∧ s.group.outcome? e = some o ∧
      t = s.setPhase c call (.returned o) := by
  rw [receive?] at stepped
  split at stepped
  · rename_i call found
    split at stepped
    · rename_i e waiting
      split at stepped
      · cases stepped
      · rename_i notDone
        obtain ⟨o, delivered, rfl⟩ := Option.map_eq_some_iff.mp stepped
        exact ⟨call, e, o, found, waiting, by simpa using notDone, delivered, rfl⟩
    · cases stepped
  · cases stepped

theorem giveUp?_spec {choice : Choice} (stepped : s.giveUp? c choice = some t) :
    ∃ call e err, s.calls.get? c = some call ∧ call.phase = .waiting e ∧
      call.context.done? choice s.tokens s.now = some err ∧
      t = s.setPhase c call (.returned (.error err)) := by
  rw [giveUp?] at stepped
  split at stepped
  · rename_i call found
    split at stepped
    · rename_i e waiting
      obtain ⟨err, done, rfl⟩ := Option.map_eq_some_iff.mp stepped
      exact ⟨call, e, err, found, waiting, done, rfl⟩
    · cases stepped
  · cases stepped

theorem drop?_spec (stepped : s.drop? c = some t) :
    ∃ call e, s.calls.get? c = some call ∧ call.phase = .waiting e ∧ t = s.setPhase c call .dropped := by
  rw [drop?] at stepped
  split at stepped
  · rename_i call found
    split at stepped
    · rename_i e waiting
      cases stepped
      exact ⟨call, e, found, waiting, rfl⟩
    · cases stepped
  · cases stepped

theorem receive?_eq {call : Call V} {e key : String} {o : Outcome V}
    (present : s.calls.get? c = some call) (waiting : call.phase = .waiting e)
    (going : call.context.done? .cancellation s.tokens s.now = none)
    (ended : s.group.executions.get? e = some ⟨key, .ended o⟩) :
    s.receive? c = some (s.setPhase c call (.returned o)) := by
  rw [receive?, present]
  dsimp only
  rw [waiting, going]
  simp [Group.outcome?, ended]

theorem giveUp?_eq {call : Call V} {e : CallerId} {choice : Choice} {err : CallError}
    (present : s.calls.get? c = some call) (waiting : call.phase = .waiting e)
    (done : call.context.done? choice s.tokens s.now = some err) :
    s.giveUp? c choice = some (s.setPhase c call (.returned (.error err))) := by
  rw [giveUp?, present]
  dsimp only
  rw [waiting, done]
  rfl

theorem drop?_eq {call : Call V} {e : CallerId} (present : s.calls.get? c = some call)
    (waiting : call.phase = .waiting e) : s.drop? c = some (s.setPhase c call .dropped) := by
  rw [drop?, present]
  dsimp only
  rw [waiting]

theorem result?_setPhase (s : State V) (c : CallerId) (call : Call V) (o : Outcome V) :
    (s.setPhase c call (.returned o)).result? c = some o := by
  simp [result?, setPhase]

theorem returned_of_result? {o : Outcome V} (delivered : s.result? c = some o) :
    ∃ call, s.calls.get? c = some call ∧ call.phase = .returned o := by
  rw [result?] at delivered
  split at delivered
  · rename_i present
    cases delivered
    exact ⟨_, present, rfl⟩
  · cases delivered

end Flight.State

end PlaceGateway
