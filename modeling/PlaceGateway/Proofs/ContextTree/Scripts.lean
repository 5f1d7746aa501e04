import PlaceGateway.Proofs.ContextTree
/-! Scripted runs of contexts as histories of operations: what their answers tell of a context is what the
history tells of it. -/

namespace PlaceGateway.ContextTree

open Scenario.Context (Step Reply Answer)

def uses? : Step → Option String
  | .tighten _ source _ | .child _ source => some source
  | .cancel id => some id
  | _ => none

def makes? : Step → Option String
  | .make id _ | .tighten id _ _ | .child id _ => some id
  | _ => none

/-- The script uses contexts only that are among the given ones or were made by it before. -/
def IsSensible : List String → List Step → Prop
  | _, [] => True
  | names, step :: rest =>
    (∀ name, uses? step = some name → name ∈ names) ∧ IsSensible ((makes? step).toList ++ names) rest

structure Among (names : List String) (s : Scenario.Context.State) (t : State) : Prop where
  now : t.now = s.now
  tokens : t.tokens = s.tokens
  known : ∀ name ∈ names, ∃ ctx, s.contexts.get? name = some ctx
  contexts : ∀ name ctx, s.contexts.get? name = some ctx → ctx ∈ t.contexts

variable {names : List String} {s s' : Scenario.Context.State} {t : State} {step : Step} {reply : Reply}

theorem State.run_make (t : State) (deadline : Instant) :
    t.run [.make, .withDeadline t.contexts.length deadline] =
      some { t with
        tokens := t.tokens.root t.freshToken
        contexts := t.contexts ++ [(CallContext.mk t.freshToken none).withDeadline deadline] } := by
  simp [run, step]

theorem State.run_clone {i : Nat} {ctx : CallContext} (found : t.contexts[i]? = some ctx) (deadline : Instant) :
    t.run [.clone i, .withDeadline t.contexts.length deadline] =
      some { t with contexts := t.contexts ++ [ctx.withDeadline deadline] } := by
  simp [run, step, found]

namespace Among

theorem freshToken (among : Among names s t) : t.freshToken = s.freshToken := by
  rw [State.freshToken, Scenario.Context.State.freshToken, among.tokens]

theorem source (among : Among names s t) {name : String} (member : name ∈ names) :
    ∃ i : Nat, t.contexts[i]? = some (s.context name) := by
  rcases among.known name member with ⟨ctx, found⟩
  rw [Scenario.Context.State.context, found]
  exact List.mem_iff_getElem?.mp (among.contexts name ctx found)

theorem put (among : Among names s t) (id : String) (ctx : CallContext) (tokens : Tokens) :
    Among (id :: names) ({ s with tokens }.put id ctx) { t with tokens, contexts := t.contexts ++ [ctx] } := by
  constructor
  · exact among.now
  · rfl
  · intro name member
    simp only [Scenario.Context.State.put, Table.get?_set]
    split
    · exact ⟨ctx, rfl⟩
    · rename_i other
      exact among.known name ((List.mem_cons.mp member).resolve_left other)
  · apply Table.forall_set
    · intro name other found
      exact List.mem_append_left _ (among.contexts name other found)
    · exact List.mem_append_right _ List.mem_cons_self

theorem waits (among : Among names s t) (later : s.now ≤ s'.now) (tokens : s'.tokens = s.tokens)
    (contexts : s'.contexts = s.contexts) :
    ∃ ops t', t.run ops = some t' ∧ Among names s' t' := by
  refine ⟨[.advance (s'.now - s.now)], _, rfl, ?_⟩
  constructor
  · change t.now + (s'.now - s.now) = s'.now
    rw [among.now]
    exact Nat.add_sub_cancel' later
  · rw [tokens]
    exact among.tokens
  · rw [contexts]
    exact among.known
  · rw [contexts]
    exact among.contexts

end Among

theorem le_foldl_min {now first : Nat} {arrivals : List Nat} (start : now ≤ first)
    (later : ∀ a ∈ arrivals, now ≤ a) :
    now ≤ arrivals.foldl min first := by
  induction arrivals generalizing first with
  | nil => exact start
  | cons a rest ih =>
      apply ih
      · exact Nat.le_min.mpr ⟨start, later a List.mem_cons_self⟩
      · intro b member
        exact later b (List.mem_cons_of_mem a member)

theorem await_spec (s : Scenario.Context.State) (ctx : CallContext) (due : Option Instant)
    (result : Except CallError Unit) :
    s.now ≤ (s.await ctx due result).1.now ∧ (s.await ctx due result).1.tokens = s.tokens ∧
      (s.await ctx due result).1.contexts = s.contexts := by
  rw [Scenario.Context.State.await]
  split
  · exact ⟨Nat.le_refl _, rfl, rfl⟩
  · refine ⟨?_, rfl, rfl⟩
    apply le_foldl_min
    · exact Nat.le_add_right _ _
    · intro a member
      rcases List.mem_map.mp member with ⟨timer, _, rfl⟩
      exact Nat.le_add_right _ _

theorem Among.await (among : Among names s t) {ctx : CallContext} {due : Option Instant}
    {result : Except CallError Unit} (waited : s.await ctx due result = (s', reply)) :
    ∃ ops t', t.run ops = some t' ∧ Among names s' t' := by
  rcases await_spec s ctx due result with ⟨later, tokens, contexts⟩
  rw [waited] at later tokens contexts
  exact among.waits later tokens contexts

theorem run_of_step (among : Among names s t) (used : ∀ name, uses? step = some name → name ∈ names)
    (stepped : s.step step = some (s', reply)) :
    ∃ ops t', t.run ops = some t' ∧ Among ((makes? step).toList ++ names) s' t' := by
  -- Making and cancelling are operations of the tree, waiting is an advance of its clock, and a check is nothing.
  cases step with
  | make id timeout =>
      cases timeout with
      | none =>
          cases stepped
          refine ⟨[.make], _, rfl, ?_⟩
          rw [among.freshToken, among.tokens]
          exact among.put id _ _
      | some d =>
          rcases Option.map_eq_some_iff.mp stepped with ⟨ctx, bounded, same⟩
          cases same
          rcases Option.map_eq_some_iff.mp bounded with ⟨deadline, _, rfl⟩
          refine ⟨_, _, State.run_make t deadline, ?_⟩
          rw [among.freshToken, among.tokens]
          exact among.put id _ _
  | tighten id source d =>
      rcases Option.map_eq_some_iff.mp stepped with ⟨ctx, bounded, same⟩
      cases same
      rcases Option.map_eq_some_iff.mp bounded with ⟨deadline, _, rfl⟩
      rcases among.source (used source rfl) with ⟨i, found⟩
      refine ⟨_, _, State.run_clone found deadline, ?_⟩
      have next := among.put id ((s.context source).withDeadline deadline) t.tokens
      have same : { s with tokens := t.tokens } = s := by rw [among.tokens]
      rw [same] at next
      exact next
  | child id source =>
      cases stepped
      rcases among.source (used source rfl) with ⟨i, found⟩
      have ran := State.run_singleton t (.child i)
      rw [State.step, found, Option.map_some] at ran
      refine ⟨_, _, ran, ?_⟩
      rw [among.freshToken, among.tokens]
      exact among.put id _ _
  | cancel id =>
      cases stepped
      rcases among.source (used id rfl) with ⟨i, found⟩
      have ran := State.run_singleton t (.cancel i)
      rw [State.step, found, Option.map_some] at ran
      refine ⟨_, _, ran, ?_⟩
      rw [among.tokens]
      exact ⟨among.now, rfl, among.known, among.contexts⟩
  | advance d =>
      rcases Option.map_eq_some_iff.mp stepped with ⟨later, reached, same⟩
      cases same
      exact among.waits (Instant.le_of_add? reached) rfl rfl
  | check id =>
      refine ⟨[], t, rfl, ?_⟩
      rw [Scenario.Context.State.step] at stepped
      split at stepped
      · cases stepped
        exact among
      · cases stepped
        exact among
  | done id => exact among.await (Option.some.inj stepped)
  | run id work error =>
      cases work with
      | never => exact among.await (Option.some.inj stepped)
      | after d =>
          rcases Option.map_eq_some_iff.mp stepped with ⟨due, _, same⟩
          exact among.await same
      | atOnce =>
          cases stepped
          exact ⟨[], t, rfl, among⟩

theorem run_of_among {script : List Step} {answers : List Answer} (among : Among names s t)
    (sensible : IsSensible names script) (ran : s.run script = some answers) :
    ∀ answer ∈ answers, ∃ ops t', t.run ops = some t' ∧ answer.now = t'.now ∧
      ∀ cancelled deadline, answer.context = some (cancelled, deadline) →
        ∃ ctx ∈ t'.contexts, cancelled = t'.tokens.isCancelled ctx.token ∧ deadline = ctx.deadline := by
  induction script generalizing names s t answers with
  | nil =>
      cases ran
      intro answer member
      cases member
  | cons step rest ih =>
      rcases Option.bind_eq_some_iff.mp ran with ⟨⟨next, reply⟩, stepped, later⟩
      rcases Option.bind_eq_some_iff.mp later with ⟨told, onward, same⟩
      cases same
      rcases run_of_step among sensible.1 stepped with ⟨ops, t', first, among'⟩
      intro answer member
      rcases List.mem_cons.mp member with rfl | member
      · refine ⟨ops, t', first, among'.now.symm, ?_⟩
        intro cancelled deadline tells
        rcases Option.map_eq_some_iff.mp tells with ⟨ctx, found, same⟩
        cases same
        rcases Option.bind_eq_some_iff.mp found with ⟨name, _, held⟩
        refine ⟨ctx, among'.contexts name ctx held, ?_, rfl⟩
        rw [among'.tokens]
      · rcases ih among' sensible.2 onward answer member with ⟨ops', last, second, rest⟩
        exact ⟨ops ++ ops', last, by rw [State.run_append, first, Option.bind_some, second], rest⟩

theorem run_of_script {script : List Step} {answers : List Answer} (sensible : IsSensible [] script)
    (ran : Scenario.Context.State.initial.run script = some answers) :
    ∀ answer ∈ answers, ∃ ops t, State.initial.run ops = some t ∧ answer.now = t.now ∧
      ∀ cancelled deadline, answer.context = some (cancelled, deadline) →
        ∃ ctx ∈ t.contexts, cancelled = t.tokens.isCancelled ctx.token ∧ deadline = ctx.deadline := by
  have among : Among [] Scenario.Context.State.initial State.initial := by
    refine ⟨rfl, rfl, ?_, ?_⟩
    · intro name member
      cases member
    · intro name ctx found
      cases found
  exact run_of_among among sensible ran

end PlaceGateway.ContextTree
