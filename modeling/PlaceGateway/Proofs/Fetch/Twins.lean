import PlaceGateway.Proofs.Fetch.Run
/-! Two runs of a cache that differ only in what some of its callers do while they wait. -/

namespace PlaceGateway

/-- Two tokens are the same, but one of the party may be cancelled in one place and not in the other. No
other token descends from one of the party. -/
def Token.Alike (own : TokenId → Bool) (entry entry' : TokenId × Token) : Prop :=
  entry.1 = entry'.1 ∧ entry.2.parent = entry'.2.parent ∧
    (own entry.1 = false → entry.2.cancelled = entry'.2.cancelled ∧ entry.2.parent.any own = false)

namespace Tokens

def Alike (own : TokenId → Bool) (ts ts' : Tokens) : Prop :=
  List.Forall₂ (Token.Alike own) ts.entries ts'.entries

variable {own : TokenId → Bool} {ts ts' : Tokens} {entries entries' : List (TokenId × Token)}
  {id : TokenId}

theorem Alike.symm (alike : ts.Alike own ts') : ts'.Alike own ts := by
  refine List.Forall₂.flip (List.Forall₂.imp ?_ alike)
  rintro ⟨name, token⟩ ⟨name', token'⟩ ⟨same, parents, outside⟩
  refine ⟨same.symm, parents.symm, fun free => ?_⟩
  obtain ⟨cancelled, apart⟩ := outside (same ▸ free)
  exact ⟨cancelled.symm, parents ▸ apart⟩

theorem lookup_alike (alike : List.Forall₂ (Token.Alike own) entries entries') (id : TokenId) :
    Option.Rel (fun token token' => Token.Alike own (id, token) (id, token'))
      (entries.lookup id) (entries'.lookup id) := by
  induction alike with
  | nil => exact .none
  | @cons entry entry' _ _ first _ ih =>
      obtain ⟨name, token⟩ := entry
      obtain ⟨name', token'⟩ := entry'
      obtain ⟨same, rest⟩ := first
      dsimp only at same
      subst same
      rw [Table.lookup_cons_ite, Table.lookup_cons_ite]
      by_cases here : id = name
      · subst here
        rw [if_pos rfl, if_pos rfl]
        exact .some ⟨rfl, rest⟩
      · rw [if_neg here, if_neg here]
        exact ih

theorem setEntry_alike (alike : List.Forall₂ (Token.Alike own) entries entries') {token token' : Token}
    (same : Token.Alike own (id, token) (id, token')) :
    List.Forall₂ (Token.Alike own) (Table.setEntry id token entries) (Table.setEntry id token' entries') := by
  induction alike with
  | nil => exact .cons same .nil
  | @cons entry entry' _ _ first rest ih =>
      rw [Table.setEntry, Table.setEntry, ← first.1]
      by_cases here : entry.1 = id
      · rw [if_pos here, if_pos here]
        exact .cons same rest
      · rw [if_neg here, if_neg here]
        exact .cons first ih

theorem mark_alike (alike : List.Forall₂ (Token.Alike own) entries entries') (id : TokenId)
    (marked : List TokenId) :
    List.Forall₂ (Token.Alike own) (mark id marked entries) (mark id marked entries') := by
  induction alike generalizing marked with
  | nil => exact .nil
  | @cons entry entry' _ _ first rest ih =>
      obtain ⟨name, token⟩ := entry
      obtain ⟨name', token'⟩ := entry'
      obtain ⟨same, parents, outside⟩ := first
      dsimp only at same parents outside
      subst same
      rw [mark, mark, ← parents]
      split
      · exact .cons ⟨rfl, rfl, fun free => ⟨rfl, (outside free).2⟩⟩ (ih _)
      · exact .cons ⟨rfl, parents, outside⟩ (ih _)

theorem mark_alike_left (alike : List.Forall₂ (Token.Alike own) entries entries') (member : own id = true)
    (marked : List TokenId) (members : ∀ other ∈ marked, own other = true) :
    List.Forall₂ (Token.Alike own) (mark id marked entries) entries' := by
  induction alike generalizing marked with
  | nil => exact .nil
  | @cons entry entry' _ _ first rest ih =>
      obtain ⟨name, token⟩ := entry
      obtain ⟨same, parents, outside⟩ := first
      dsimp only at same parents outside
      rw [mark]
      split
      · rename_i hit
        -- A token outside has no parent inside, so a mark that comes from the party stays in it.
        have inside : own name = true := by
          rcases hit with rfl | hit
          · exact member
          · obtain ⟨parent, is, listed⟩ := (Option.any_eq_true _ _).mp hit
            by_contra free
            have apart := (outside (by simpa using free)).2
            rw [is, Option.any_some, members parent (by simpa using listed)] at apart
            cases apart
        refine .cons ⟨same, parents, fun free => ?_⟩ (ih _ ?_)
        · rw [inside] at free
          cases free
        · intro other listed
          rcases List.mem_cons.mp listed with rfl | listed
          · exact inside
          · exact members other listed
      · exact .cons ⟨same, parents, outside⟩ (ih _ members)

theorem Alike.contains (alike : ts.Alike own ts') (id : TokenId) : ts.contains id = ts'.contains id := by
  rw [Table.contains, Table.contains, Table.get?, Table.get?]
  have found := lookup_alike alike id
  generalize ts.entries.lookup id = token, ts'.entries.lookup id = token' at found
  cases found with
  | none => rfl
  | some _ => rfl

theorem Alike.isCancelled (alike : ts.Alike own ts') (outside : own id = false) :
    ts.isCancelled id = ts'.isCancelled id := by
  rw [Tokens.isCancelled, Tokens.isCancelled, Table.get?, Table.get?]
  have found := lookup_alike alike id
  generalize ts.entries.lookup id = token, ts'.entries.lookup id = token' at found
  cases found with
  | none => rfl
  | some same => exact (same.2.2 outside).1

theorem Alike.set (alike : ts.Alike own ts') {token token' : Token}
    (same : Token.Alike own (id, token) (id, token')) : Alike own (ts.set id token) (ts'.set id token') :=
  setEntry_alike alike same

theorem Alike.cancel (alike : ts.Alike own ts') (id : TokenId) :
    (ts.cancel id).Alike own (ts'.cancel id) := mark_alike alike id []

theorem Alike.cancel_left (alike : ts.Alike own ts') (member : own id = true) :
    (ts.cancel id).Alike own ts' := mark_alike_left alike member [] (by simp)

end Tokens

namespace Fetch

open Flight (Call CallerId)

/-- Callers who may give up while they wait, and the tokens that only they come with. -/
structure Party where
  callers : CallerId → Bool
  tokens : TokenId → Bool

namespace Party

def context (P : Party) (c : CallerId) (context : CallContext) : CallContext :=
  if P.callers c then { context with deadline := none } else context

/-- What others can tell of an event. Members' tokens, and what members do who wait, are nothing to
them. -/
def outside? (P : Party) : Event → Option Event
  | .arrive c key kind context => some (.arrive c key kind (P.context c context))
  | .cancel id => if P.tokens id then none else some (.cancel id)
  | .receive c => if P.callers c then none else some (.receive c)
  | .giveUp c choice => if P.callers c then none else some (.giveUp c choice)
  | .drop c => if P.callers c then none else some (.drop c)
  | event => some event

/-- Only members come with tokens of the party, and only those have children among them. The context of
a member is not done before it has entered, and it does not go away before. -/
def admits (P : Party) (s : State) : Event → Bool
  | .token id parent => !parent.any P.tokens || P.tokens id
  | .arrive c _ _ context => !P.tokens context.token || P.callers c
  | .check c | .enter c => !P.callers c || (s.callers.get? c).all fun caller =>
      (caller.context.check s.flight.tokens s.now).isNone
  | .drop c => !P.callers c || (s.callers.get? c).any fun caller => caller.phase = .flying
  | _ => true

def run (P : Party) (s : State) : List Event → Option State
  | [] => some s
  | event :: rest => if P.admits s event then (s.step event).bind (P.run · rest) else none

variable {P : Party} {c : CallerId} {ctx ctx' : CallContext}

theorem token_eq (same : P.context c ctx = P.context c ctx') : ctx.token = ctx'.token := by
  rw [context, context] at same
  split at same
  · cases ctx
    cases ctx'
    cases same
    rfl
  · rw [same]

theorem context_eq (outside : P.callers c = false) (same : P.context c ctx = P.context c ctx') :
    ctx = ctx' := by
  rwa [context, context, if_neg (by simp [outside]), if_neg (by simp [outside])] at same

theorem outside?_spec {event shared : Event} (told : P.outside? event = some shared) :
    (∃ c key kind ctx, event = .arrive c key kind ctx ∧ shared = .arrive c key kind (P.context c ctx)) ∨
      event = shared ∧ ∀ c key kind ctx, event ≠ .arrive c key kind ctx := by
  have kept {member : Bool} (told : (if member then none else some event) = some shared) :
      event = shared := by
    cases member with
    | true => cases told
    | false =>
        cases told
        rfl
  cases event with
  | arrive c key kind ctx =>
      cases told
      exact .inl ⟨c, key, kind, ctx, rfl, rfl⟩
  | cancel id => exact .inr ⟨kept told, by simp⟩
  | receive c => exact .inr ⟨kept told, by simp⟩
  | giveUp c choice => exact .inr ⟨kept told, by simp⟩
  | drop c => exact .inr ⟨kept told, by simp⟩
  | _ =>
      cases told
      exact .inr ⟨rfl, by simp⟩

theorem run_append (P : Party) (s : State) (front rest : List Event) :
    P.run s (front ++ rest) = (P.run s front).bind (P.run · rest) := by
  induction front generalizing s with
  | nil => rfl
  | cons event front ih =>
      rw [List.cons_append, run, run]
      split
      · rw [Option.bind_assoc]
        exact Option.bind_congr fun s _ => ih s
      · rfl

theorem run_of_run {s t : State} {trace : List Event} (admitted : P.run s trace = some t) :
    s.run trace = some t := by
  induction trace generalizing s with
  | nil => exact admitted
  | cons event trace ih =>
      rw [run] at admitted
      split at admitted
      · obtain ⟨next, stepped, onward⟩ := Option.bind_eq_some_iff.mp admitted
        rw [State.run, stepped, Option.bind_some]
        exact ih onward
      · cases admitted

end Party

structure Calls.Alike (P : Party) (v v' : Calls) : Prop where
  tokens : v.tokens.Alike P.tokens v'.tokens
  callers : ∀ c, (v.callers.get? c).map (fun caller => { caller with context := P.context c caller.context }) =
    (v'.callers.get? c).map (fun caller => { caller with context := P.context c caller.context })
  called : ∀ c, v.calls.contains c = v'.calls.contains c
  calls : ∀ c, P.callers c = false → v.calls.get? c = v'.calls.get? c
  apart : ∀ c, P.callers c = false →
    (∀ caller, v.callers.get? c = some caller → P.tokens caller.context.token = false) ∧
      ∀ call, v.calls.get? c = some call → P.tokens call.context.token = false

namespace Calls.Alike

variable {P : Party} {v v' : Calls} {c : CallerId} {ctx ctx' : CallContext}

theorem caller (alike : v.Alike P v') {caller : Caller} (present : v.callers.get? c = some caller) :
    ∃ context, v'.callers.get? c = some { caller with context } ∧
      P.context c caller.context = P.context c context := by
  have same := alike.callers c
  rw [present, Option.map_some] at same
  obtain ⟨other, found, view⟩ := Option.map_eq_some_iff.mp same.symm
  obtain ⟨key, kind, context, phase⟩ := other
  obtain ⟨key', kind', context', phase'⟩ := caller
  simp only [Caller.mk.injEq] at view
  obtain ⟨rfl, rfl, contexts, rfl⟩ := view
  exact ⟨context, found, contexts.symm⟩

theorem contains (alike : v.Alike P v') (c : CallerId) : v.callers.contains c = v'.callers.contains c := by
  have same := congrArg Option.isSome (alike.callers c)
  rwa [Option.isSome_map, Option.isSome_map] at same

theorem caller_eq (alike : v.Alike P v') (outside : P.callers c = false) :
    v.callers.get? c = v'.callers.get? c := by
  cases present : v.callers.get? c with
  | none =>
      have same := alike.contains c
      rw [Table.contains, present, Table.contains] at same
      exact (Option.isSome_eq_false_iff.mp same.symm |> Option.isNone_iff_eq_none.mp).symm
  | some caller =>
      obtain ⟨context, found, same⟩ := alike.caller present
      rw [found, ← Party.context_eq outside same]

theorem symm (alike : v.Alike P v') : v'.Alike P v where
  tokens := alike.tokens.symm
  callers c := (alike.callers c).symm
  called c := (alike.called c).symm
  calls c outside := (alike.calls c outside).symm
  apart c outside := by
    constructor
    · intro own present
      have same := alike.callers c
      rw [present, Option.map_some] at same
      obtain ⟨other, found, view⟩ := Option.map_eq_some_iff.mp same
      have contexts := congrArg (·.context) view
      have free := (alike.apart c outside).1 other found
      rwa [Party.token_eq contexts] at free
    · intro call present
      rw [← alike.calls c outside] at present
      exact (alike.apart c outside).2 call present

theorem done_eq (alike : v.Alike P v') (outside : P.tokens ctx.token = false) (choice : Choice)
    (now : Instant) : ctx.done? choice v.tokens now = ctx.done? choice v'.tokens now := by
  simp only [CallContext.done?, alike.tokens.isCancelled outside]

theorem check_eq (alike : v.Alike P v') {now : Instant} (same : P.context c ctx = P.context c ctx')
    (apart : P.callers c = false → P.tokens ctx.token = false)
    (going : P.callers c = true → ctx.check v.tokens now = none)
    (going' : P.callers c = true → ctx'.check v'.tokens now = none) :
    ctx.check v.tokens now = ctx'.check v'.tokens now := by
  cases member : P.callers c with
  | true => rw [going member, going' member]
  | false =>
      cases Party.context_eq member same
      rw [CallContext.check, CallContext.check, alike.tokens.isCancelled (apart member)]

theorem setCaller (alike : v.Alike P v') (caller : Caller) (same : P.context c caller.context = P.context c ctx')
    (apart : P.callers c = false → P.tokens caller.context.token = false) :
    Calls.Alike P { v with callers := v.callers.set c caller }
      { v' with callers := v'.callers.set c { caller with context := ctx' } } where
  tokens := alike.tokens
  callers other := by
    rw [Table.get?_set, Table.get?_set]
    by_cases here : other = c
    · simp [here, same]
    · rw [if_neg here, if_neg here]
      exact alike.callers other
  called := alike.called
  calls := alike.calls
  apart other outside := by
    refine ⟨?_, (alike.apart other outside).2⟩
    intro own present
    rcases Table.get?_set_cases present with ⟨rfl, rfl⟩ | ⟨_, before⟩
    · exact apart outside
    · exact (alike.apart other outside).1 own before

theorem setCall (alike : v.Alike P v') (call call' : Call Payload)
    (same : P.callers c = false → call = call' ∧ P.tokens call.context.token = false) :
    Calls.Alike P { v with calls := v.calls.set c call } { v' with calls := v'.calls.set c call' } where
  tokens := alike.tokens
  callers := alike.callers
  called other := by
    have was := alike.called other
    rw [Table.contains, Table.contains] at was ⊢
    rw [Table.get?_set, Table.get?_set]
    by_cases here : other = c
    · rw [if_pos here, if_pos here]
      rfl
    · rw [if_neg here, if_neg here]
      exact was
  calls other outside := by
    rw [Table.get?_set, Table.get?_set]
    by_cases here : other = c
    · subst here
      rw [if_pos rfl, if_pos rfl, (same outside).1]
    · rw [if_neg here, if_neg here]
      exact alike.calls other outside
  apart other outside := by
    refine ⟨(alike.apart other outside).1, ?_⟩
    intro own present
    rcases Table.get?_set_cases present with ⟨rfl, rfl⟩ | ⟨_, before⟩
    · exact (same outside).2
    · exact (alike.apart other outside).2 own before

theorem setCall_left (alike : v.Alike P v') (member : P.callers c = true) {call : Call Payload}
    (present : v.calls.get? c = some call) (call' : Call Payload) :
    Calls.Alike P { v with calls := v.calls.set c call' } v' where
  tokens := alike.tokens
  callers := alike.callers
  called other := by
    rw [← alike.called other, Table.contains, Table.contains, Table.get?_set]
    by_cases here : other = c
    · rw [if_pos here, here, present]
      rfl
    · rw [if_neg here]
  calls other outside := by
    have here : other ≠ c := by
      rintro rfl
      rw [member] at outside
      cases outside
    rw [Table.get?_set, if_neg here]
    exact alike.calls other outside
  apart other outside := by
    have here : other ≠ c := by
      rintro rfl
      rw [member] at outside
      cases outside
    rw [Table.get?_set, if_neg here]
    exact alike.apart other outside

end Calls.Alike

end Fetch

end PlaceGateway
