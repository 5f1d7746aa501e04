import PlaceGateway.Proofs.ContextTree.Scripts
/-! What contexts inherit. A context is cancelled exactly if some context was cancelled that it heeds, whenever
that was, and its deadline is the earliest of those that were set along its derivation. -/

namespace PlaceGateway.ContextTree

open Tokens (Links Under)

/-- The cancelled ones among the tokens are those below the tokens of cancelled contexts. -/
structure Told (ops : List Operation) (held : List TokenId) (links : Links) (cancelled : TokenId → Bool) :
    Prop where
  exist : ∀ c, .cancel c ∈ ops → c < held.length
  told : ∀ id ∈ links.map Prod.fst,
    cancelled id = true ↔ ∃ c given, .cancel c ∈ ops ∧ held[c]? = some given ∧ Under links given id

/-- Deadlines are the earliest ones that were applied, and none was applied to a context before it was made. -/
structure Bound (ops : List Operation) (contexts : List CallContext) : Prop where
  exist : ∀ i t, Applied ops i t → i < contexts.length
  earliest : ∀ i ctx, contexts[i]? = some ctx → IsEarliest (Applied ops i) ctx.deadline

variable {s t : State} {op : Operation} {ops : List Operation} {i : Nat} {held : List TokenId} {links : Links}
  {contexts : List CallContext}

theorem State.run_concat (s : State) (ops : List Operation) (op : Operation) :
    s.run (ops ++ [op]) = (s.run ops).bind (·.step op) := by
  simp only [run_append, run_singleton]

theorem State.run_induction {P : List Operation → State → Prop} (start : P [] initial)
    (grow : ∀ ops op s t, initial.run ops = some s → P ops s → s.step op = some t → P (ops ++ [op]) t)
    (ran : initial.run ops = some s) : P ops s := by
  induction ops using List.reverseRecOn generalizing s with
  | nil =>
      cases ran
      exact start
  | append_singleton ops op ih =>
      rw [run_concat] at ran
      rcases Option.bind_eq_some_iff.mp ran with ⟨before, ran, stepped⟩
      exact grow ops op before s ran (ih ran) stepped

theorem origins_concat (ops : List Operation) (op : Operation) :
    origins (ops ++ [op]) = origins ops ++ op.origin?.toList := by
  rw [origins, List.filterMap_append, origins]
  cases made : op.origin? <;> simp [made]

theorem State.held_getElem? (s : State) (i : Nat) : s.held[i]? = s.contexts[i]?.map CallContext.token := by
  rw [held, List.getElem?_map]

theorem State.held_of_context {ctx : CallContext} (is : s.contexts[i]? = some ctx) : s.held[i]? = some ctx.token := by
  rw [held_getElem?, is]
  rfl

theorem State.freshToken_eq (s : State) : s.freshToken = toString s.tokens.links.length := by
  rw [freshToken, Table.size, Tokens.links, Tokens.linksOf, List.length_map]

theorem State.held_of_withDeadline {target : Nat} {deadline : Instant}
    (stepped : s.step (.withDeadline target deadline) = some t) : t.held = s.held := by
  rcases Option.map_eq_some_iff.mp stepped with ⟨ctx, is, rfl⟩
  rw [held, List.map_set]
  apply List.ext_getElem?
  intro n
  rw [List.getElem?_set, held]
  split
  · rename_i here
    rw [← here, List.getElem?_map, is]
    have inside := (List.getElem?_eq_some_iff.mp is).1
    simp [inside, CallContext.withDeadline]
  · rfl

theorem Grown.freshToken {made : List Origin} (grown : Grown made s.held s.tokens.links) :
    s.freshToken ∉ s.tokens.links.map Prod.fst := by
  rw [State.freshToken_eq]
  exact grown.fresh

theorem Grown.step {made : List Origin} (grown : Grown made s.held s.tokens.links)
    (stepped : s.step op = some t) :
    Grown (made ++ op.origin?.toList) t.held t.tokens.links := by
  have fresh := grown.freshToken
  cases op with
  | make =>
      cases stepped
      have next := grown.new
      rw [← State.freshToken_eq] at next
      rw [Tokens.root, Tokens.links_set fresh]
      simpa [State.held, Operation.origin?] using next
  | clone source =>
      rcases Option.map_eq_some_iff.mp stepped with ⟨ctx, is, rfl⟩
      simpa [State.held, Operation.origin?] using grown.clone (State.held_of_context is)
  | child source =>
      rcases Option.map_eq_some_iff.mp stepped with ⟨ctx, is, rfl⟩
      have next := grown.child (State.held_of_context is)
      rw [← State.freshToken_eq] at next
      rw [Tokens.child, Tokens.links_set fresh]
      simpa [State.held, CallContext.child, Operation.origin?] using next
  | withDeadline target deadline =>
      have same := State.held_of_withDeadline stepped
      rcases Option.map_eq_some_iff.mp stepped with ⟨ctx, is, rfl⟩
      rw [same]
      simpa [Operation.origin?] using grown
  | cancel target =>
      rcases Option.map_eq_some_iff.mp stepped with ⟨ctx, is, rfl⟩
      simpa [State.held, Operation.origin?, Tokens.links_cancel] using grown
  | advance nanos =>
      cases stepped
      simpa [State.held, Operation.origin?] using grown

theorem State.grown (ran : initial.run ops = some s) : Grown (origins ops) s.held s.tokens.links := by
  apply run_induction (P := fun ops s => Grown (origins ops) s.held s.tokens.links) .start ?_ ran
  intro ops op s t _ grown stepped
  rw [origins_concat]
  exact grown.step stepped

theorem IsEarliest.congr {among among' : Instant → Prop} {deadline : Option Instant}
    (earliest : IsEarliest among deadline) (same : ∀ t, among' t ↔ among t) : IsEarliest among' deadline := by
  cases deadline with
  | none =>
      intro t member
      exact earliest t ((same t).mp member)
  | some d =>
      constructor
      · exact (same d).mpr earliest.1
      · intro t member
        exact earliest.2 t ((same t).mp member)

theorem IsEarliest.add {among : Instant → Prop} {ctx : CallContext} (earliest : IsEarliest among ctx.deadline)
    (deadline : Instant) :
    IsEarliest (fun t => among t ∨ t = deadline) (ctx.withDeadline deadline).deadline := by
  rw [CallContext.withDeadline]
  cases held : ctx.deadline with
  | none =>
      rw [held] at earliest
      constructor
      · exact .inr rfl
      · intro t member
        rcases member with member | same
        · exact absurd member (earliest t)
        · exact Nat.le_of_eq same.symm
  | some d =>
      rw [held] at earliest
      constructor
      · rcases Nat.le_total d deadline with earlier | later
        · simpa [Nat.min_eq_left earlier] using Or.inl earliest.1
        · simp [Nat.min_eq_right later]
      · intro t member
        rcases member with member | same
        · exact Nat.le_trans (Nat.min_le_left d deadline) (earliest.2 t member)
        · rw [same]
          exact Nat.min_le_right d deadline

theorem applied_concat_iff (ops : List Operation) (op : Operation) (i : Nat) (t : Instant) :
    Applied (ops ++ [op]) i t ↔ Applied ops i t ∨ op = .withDeadline i t ∨
      ∃ source, op.source? = some source ∧ i = (origins ops).length ∧ Applied ops source t := by
  constructor
  · intro applied
    generalize whole : ops ++ [op] = history at applied
    -- The deadline was set or inherited in the last step, or it is older.
    cases applied with
    | own =>
        rcases Tokens.concat_eq_append_cons whole with ⟨_, _, same⟩ | ⟨before, _, rfl⟩
        · exact .inr (.inl same.symm)
        · exact .inl .own
    | @inherited front _ made source _ makes before =>
        rcases Tokens.concat_eq_append_cons whole with ⟨_, rfl, rfl⟩ | ⟨rest, _, rfl⟩
        · exact .inr (.inr ⟨source, makes, rfl, before⟩)
        · exact .inl (.inherited makes before)
  · intro applied
    rcases applied with before | rfl | ⟨source, makes, rfl, before⟩
    · cases before with
      | own =>
          rw [List.append_assoc]
          exact .own
      | inherited makes before =>
          rw [List.append_assoc]
          exact .inherited makes before
    · exact .own
    · exact .inherited makes before

namespace Bound

theorem start : Bound [] [] := by
  constructor
  · intro i t applied
    generalize none : ([] : List Operation) = history at applied
    cases applied <;> simp at none
  · intro i ctx found
    simp at found

theorem idle (bound : Bound ops contexts) (unset : ∀ i t, op ≠ .withDeadline i t) (unmade : op.source? = none) :
    Bound (ops ++ [op]) contexts := by
  have same (i : Nat) (t : Instant) : Applied (ops ++ [op]) i t ↔ Applied ops i t := by
    rw [applied_concat_iff, unmade]
    simp [unset i t]
  constructor
  · intro i t applied
    exact bound.exist i t ((same i t).mp applied)
  · intro i ctx found
    exact (bound.earliest i ctx found).congr (same i)

theorem made (bound : Bound ops contexts) (count : contexts.length = (origins ops).length) {ctx : CallContext}
    (unset : ∀ i t, op ≠ .withDeadline i t)
    (inherits : IsEarliest (fun t => ∃ source, op.source? = some source ∧ Applied ops source t) ctx.deadline) :
    Bound (ops ++ [op]) (contexts ++ [ctx]) := by
  constructor
  · intro i t applied
    rw [List.length_append]
    rcases (applied_concat_iff ops op i t).mp applied with before | set | ⟨_, _, last, _⟩
    · exact Nat.lt_add_right _ (bound.exist i t before)
    · exact absurd set (unset i t)
    · rw [last, count]
      exact Nat.lt_add_one _
  · intro i other found
    rcases getElem?_concat_eq_some_iff.mp found with found | ⟨last, rfl⟩
    · apply (bound.earliest i other found).congr
      intro t
      rw [applied_concat_iff]
      have inside := (List.getElem?_eq_some_iff.mp found).1
      constructor
      · rintro (before | set | ⟨_, _, last, _⟩)
        · exact before
        · exact absurd set (unset i t)
        · omega
      · exact .inl
    · apply inherits.congr
      intro t
      rw [applied_concat_iff]
      constructor
      · rintro (before | set | ⟨source, makes, _, before⟩)
        · have inside := bound.exist i t before
          omega
        · exact absurd set (unset i t)
        · exact ⟨source, makes, before⟩
      · rintro ⟨source, makes, before⟩
        exact .inr (.inr ⟨source, makes, last.trans count, before⟩)

theorem set (bound : Bound ops contexts) {target : Nat} {ctx : CallContext} (is : contexts[target]? = some ctx)
    (deadline : Instant) :
    Bound (ops ++ [.withDeadline target deadline]) (contexts.set target (ctx.withDeadline deadline)) := by
  have inside := (List.getElem?_eq_some_iff.mp is).1
  have same (i : Nat) (t : Instant) : Applied (ops ++ [.withDeadline target deadline]) i t ↔
      Applied ops i t ∨ target = i ∧ deadline = t := by
    rw [applied_concat_iff]
    simp [Operation.source?]
  constructor
  · intro i t applied
    rw [List.length_set]
    rcases (same i t).mp applied with before | ⟨here, _⟩
    · exact bound.exist i t before
    · exact here ▸ inside
  · intro i other found
    rw [List.getElem?_set] at found
    by_cases here : target = i
    · subst here
      simp only [inside, if_true, Option.some.injEq] at found
      rw [← found]
      apply ((bound.earliest target ctx is).add deadline).congr
      intro t
      rw [same, eq_comm (a := t)]
      simp
    · rw [if_neg here] at found
      apply (bound.earliest i other found).congr
      intro t
      rw [same]
      simp [here]

theorem step (bound : Bound ops s.contexts) (count : s.contexts.length = (origins ops).length)
    (stepped : s.step op = some t) : Bound (ops ++ [op]) t.contexts := by
  have inherited {source : Nat} {ctx : CallContext} (is : s.contexts[source]? = some ctx)
      (makes : op.source? = some source) :
      IsEarliest (fun t => ∃ source, op.source? = some source ∧ Applied ops source t) ctx.deadline := by
    apply (bound.earliest source ctx is).congr
    simp [makes]
  cases op with
  | make =>
      cases stepped
      have none : IsEarliest (fun t => ∃ source, Operation.make.source? = some source ∧ Applied ops source t)
          Option.none := by
        intro t
        simp [Operation.source?]
      exact bound.made count nofun none
  | clone source =>
      rcases Option.map_eq_some_iff.mp stepped with ⟨ctx, is, rfl⟩
      exact bound.made count nofun (inherited is rfl)
  | child source =>
      rcases Option.map_eq_some_iff.mp stepped with ⟨ctx, is, rfl⟩
      have earliest := inherited is rfl
      exact bound.made count nofun earliest
  | withDeadline target deadline =>
      rcases Option.map_eq_some_iff.mp stepped with ⟨ctx, is, rfl⟩
      exact bound.set is deadline
  | cancel target =>
      rcases Option.map_eq_some_iff.mp stepped with ⟨ctx, is, rfl⟩
      exact bound.idle nofun rfl
  | advance nanos =>
      cases stepped
      exact bound.idle nofun rfl

end Bound

theorem State.length_eq (ran : initial.run ops = some s) : s.contexts.length = (origins ops).length := by
  have count := (grown ran).length
  rwa [held, List.length_map] at count

theorem State.bound (ran : initial.run ops = some s) : Bound ops s.contexts := by
  apply run_induction (P := fun ops s => Bound ops s.contexts) Bound.start ?_ ran
  intro ops op s t ran bound stepped
  exact bound.step (length_eq ran) stepped

namespace Told

variable {cancelled : TokenId → Bool}

theorem start : Told [] [] [] cancelled := by
  constructor
  · intro c member
    cases member
  · intro id member
    cases member

theorem idle (told : Told ops held links cancelled) (op : Operation) (uncancelled : ∀ c, op ≠ .cancel c) :
    Told (ops ++ [op]) held links cancelled := by
  have same (c : Nat) : .cancel c ∈ ops ++ [op] ↔ .cancel c ∈ ops := by
    rw [List.mem_append, List.mem_singleton]
    constructor
    · rintro (before | now)
      · exact before
      · exact absurd now.symm (uncancelled c)
    · exact .inl
  constructor
  · intro c member
    exact told.exist c ((same c).mp member)
  · intro id known
    simp only [same]
    exact told.told id known

theorem hold (told : Told ops held links cancelled) (id : TokenId) :
    Told ops (held ++ [id]) links cancelled := by
  constructor
  · intro c member
    rw [List.length_append]
    exact Nat.lt_add_right _ (told.exist c member)
  · intro own known
    rw [told.told own known]
    constructor
    · rintro ⟨c, given, member, found, under⟩
      exact ⟨c, given, member, getElem?_concat_of_some found id, under⟩
    · rintro ⟨c, given, member, found, under⟩
      rcases getElem?_concat_eq_some_iff.mp found with found | ⟨last, _⟩
      · exact ⟨c, given, member, found, under⟩
      · have inside := told.exist c member
        omega

theorem link {cancelled' : TokenId → Bool} {own : TokenId} {parent : Option TokenId}
    (told : Told ops held links cancelled) (ordered : Tokens.Ordered links)
    (known : ∀ id ∈ held, id ∈ links.map Prod.fst) (fresh : own ∉ links.map Prod.fst)
    (above : ∀ p, parent = some p → p ∈ links.map Prod.fst)
    (kept : ∀ id ∈ links.map Prod.fst, cancelled' id = cancelled id)
    (new : cancelled' own = true ↔ ∃ p, parent = some p ∧ cancelled p = true) :
    Told ops held (links ++ [(own, parent)]) cancelled' := by
  constructor
  · exact told.exist
  · intro id member
    rw [List.map_append, List.mem_append] at member
    rcases member with member | last
    · rw [kept id member, told.told id member]
      simp only [ordered.under_concat member]
    · rw [List.mem_singleton.mp last, new]
      constructor
      · rintro ⟨p, is, was⟩
        rcases (told.told p (above p is)).mp was with ⟨c, given, member, found, under⟩
        have apart : given ≠ own := fun same => fresh (same ▸ known given (List.mem_of_getElem? found))
        refine ⟨c, given, member, found, (Tokens.under_last fresh apart).mpr ⟨p, is, ?_⟩⟩
        exact (ordered.under_concat (above p is) _).mpr under
      · rintro ⟨c, given, member, found, under⟩
        have apart : given ≠ own := fun same => fresh (same ▸ known given (List.mem_of_getElem? found))
        rcases (Tokens.under_last fresh apart).mp under with ⟨p, is, under⟩
        refine ⟨p, is, (told.told p (above p is)).mpr ⟨c, given, member, found, ?_⟩⟩
        exact (ordered.under_concat (above p is) _).mp under

theorem cancel {ts : Tokens} (told : Told ops held ts.links ts.isCancelled) (ordered : Tokens.Ordered ts.links)
    {target : Nat} {id : TokenId} (found : held[target]? = some id) :
    Told (ops ++ [.cancel target]) held (ts.cancel id).links (ts.cancel id).isCancelled := by
  have same (c : Nat) : .cancel c ∈ ops ++ [.cancel target] ↔ .cancel c ∈ ops ∨ c = target := by
    simp
  constructor
  · intro c member
    rcases (same c).mp member with before | rfl
    · exact told.exist c before
    · exact (List.getElem?_eq_some_iff.mp found).1
  · intro own known
    rw [Tokens.links_cancel] at known ⊢
    rw [Tokens.isCancelled_cancel_iff ordered known, told.told own known]
    simp only [same]
    constructor
    · rintro (⟨c, given, member, held, under⟩ | under)
      · exact ⟨c, given, .inl member, held, under⟩
      · exact ⟨target, id, .inr rfl, found, under⟩
    · rintro ⟨c, given, member | rfl, held, under⟩
      · exact .inl ⟨c, given, member, held, under⟩
      · rw [found] at held
        cases held
        exact .inr under

end Told

theorem isCancelled_set {ts : Tokens} {own id : TokenId} (token : Token) (differs : id ≠ own) :
    Tokens.isCancelled (Table.set ts own token) id = ts.isCancelled id := by
  rw [Tokens.isCancelled, Table.get?_set, if_neg differs, Tokens.isCancelled]

theorem isCancelled_set_self (ts : Tokens) (own : TokenId) (token : Token) :
    Tokens.isCancelled (Table.set ts own token) own = token.cancelled := by
  rw [Tokens.isCancelled, Table.get?_set, if_pos rfl, Option.any_some]

theorem Told.set {ts : Tokens} {own : TokenId} (told : Told ops held ts.links ts.isCancelled)
    (ordered : Tokens.Ordered ts.links) (known : ∀ id ∈ held, id ∈ ts.links.map Prod.fst)
    (fresh : own ∉ ts.links.map Prod.fst) (token : Token)
    (above : ∀ p, token.parent = some p → p ∈ ts.links.map Prod.fst)
    (new : token.cancelled = true ↔ ∃ p, token.parent = some p ∧ ts.isCancelled p = true) :
    Told ops held (Tokens.links (Table.set ts own token)) (Tokens.isCancelled (Table.set ts own token)) := by
  rw [Tokens.links_set fresh]
  apply told.link ordered known fresh above
  · intro id member
    apply isCancelled_set
    intro same
    exact fresh (same ▸ member)
  · rw [isCancelled_set_self]
    exact new

theorem Told.step {made : List Origin} (told : Told ops s.held s.tokens.links s.tokens.isCancelled)
    (grown : Grown made s.held s.tokens.links) (stepped : s.step op = some t) :
    Told (ops ++ [op]) t.held t.tokens.links t.tokens.isCancelled := by
  have fresh := grown.freshToken
  cases op with
  | make =>
      cases stepped
      have root := told.set grown.ordered grown.known fresh ⟨none, false⟩ (by simp) (by simp)
      have next := (root.hold s.freshToken).idle .make (by simp)
      simpa [State.held, Tokens.root] using next
  | clone source =>
      rcases Option.map_eq_some_iff.mp stepped with ⟨ctx, is, rfl⟩
      have next := (told.hold ctx.token).idle (.clone source) (by simp)
      simpa [State.held] using next
  | child source =>
      rcases Option.map_eq_some_iff.mp stepped with ⟨ctx, is, rfl⟩
      have present : ctx.token ∈ s.held := List.mem_of_getElem? (State.held_of_context is)
      have below := told.set grown.ordered grown.known fresh
        ⟨some ctx.token, s.tokens.isCancelled ctx.token⟩ (by simpa using grown.known _ present) (by simp)
      have next := (below.hold s.freshToken).idle (.child source) (by simp)
      simpa [State.held, Tokens.child, CallContext.child] using next
  | withDeadline target deadline =>
      have same := State.held_of_withDeadline stepped
      rcases Option.map_eq_some_iff.mp stepped with ⟨ctx, is, rfl⟩
      rw [same]
      exact told.idle _ (by simp)
  | cancel target =>
      rcases Option.map_eq_some_iff.mp stepped with ⟨ctx, is, rfl⟩
      exact told.cancel grown.ordered (State.held_of_context is)
  | advance nanos =>
      cases stepped
      exact told.idle _ (by simp)

theorem State.told (ran : initial.run ops = some s) :
    Told ops s.held s.tokens.links s.tokens.isCancelled := by
  apply run_induction (P := fun ops s => Told ops s.held s.tokens.links s.tokens.isCancelled) Told.start ?_ ran
  intro ops op s t ran told stepped
  exact told.step (grown ran) stepped

theorem State.exists_step_iff (s : State) (op : Operation) :
    (∃ t, s.step op = some t) ↔ ∀ i, op.subject? = some i → i < s.contexts.length := by
  have asked (i : Nat) (f : CallContext → State) :
      (∃ t, s.contexts[i]?.map f = some t) ↔ i < s.contexts.length := by
    rw [← Option.isSome_iff_exists, Option.isSome_map]
    simp
  cases op with
  | make | advance nanos =>
      constructor
      · intro _ i subject
        cases subject
      · intro _
        exact ⟨_, rfl⟩
  | clone i | child i | withDeadline i deadline | cancel i =>
      constructor
      · intro possible j subject
        cases subject
        exact (asked i _).mp possible
      · intro inside
        exact (asked i _).mpr (inside i rfl)

theorem CallContext.withDeadline_le {ctx : CallContext} (deadline : Instant) :
    ∀ d, ctx.deadline = some d → ∃ d', (ctx.withDeadline deadline).deadline = some d' ∧ d' ≤ d := by
  intro d held
  rw [CallContext.withDeadline, held]
  exact ⟨_, rfl, Nat.min_le_left d deadline⟩

/-- A step keeps every context, with its token and with a deadline that is not later. It changes no context but
the one whose deadline it sets. -/
theorem State.step_keeps (stepped : s.step op = some t) {ctx : CallContext} (is : s.contexts[i]? = some ctx) :
    ∃ ctx', t.contexts[i]? = some ctx' ∧ ctx'.token = ctx.token ∧
      (∀ d, ctx.deadline = some d → ∃ d', ctx'.deadline = some d' ∧ d' ≤ d) ∧
      ((∀ deadline, op ≠ .withDeadline i deadline) → ctx' = ctx) := by
  have same : ∀ d, ctx.deadline = some d → ∃ d', ctx.deadline = some d' ∧ d' ≤ d :=
    fun d held => ⟨d, held, Nat.le_refl d⟩
  cases op with
  | make =>
      cases stepped
      exact ⟨ctx, getElem?_concat_of_some is _, rfl, same, fun _ => rfl⟩
  | clone source | child source =>
      rcases Option.map_eq_some_iff.mp stepped with ⟨_, _, rfl⟩
      exact ⟨ctx, getElem?_concat_of_some is _, rfl, same, fun _ => rfl⟩
  | withDeadline target deadline =>
      rcases Option.map_eq_some_iff.mp stepped with ⟨held, found, rfl⟩
      by_cases here : target = i
      · subst here
        rw [is] at found
        cases found
        have inside := (List.getElem?_eq_some_iff.mp is).1
        refine ⟨ctx.withDeadline deadline, ?_, rfl, CallContext.withDeadline_le deadline, ?_⟩
        · rw [List.getElem?_set_self inside]
        · intro other
          exact absurd rfl (other deadline)
      · refine ⟨ctx, ?_, rfl, same, fun _ => rfl⟩
        rw [List.getElem?_set_ne here]
        exact is
  | cancel target =>
      rcases Option.map_eq_some_iff.mp stepped with ⟨_, _, rfl⟩
      exact ⟨ctx, is, rfl, same, fun _ => rfl⟩
  | advance nanos =>
      cases stepped
      exact ⟨ctx, is, rfl, same, fun _ => rfl⟩

theorem State.child_cancelled {source : Nat} {ctx : CallContext} (is : s.contexts[source]? = some ctx)
    (cancelled : s.tokens.isCancelled ctx.token = true) (stepped : s.step (.child source) = some t) :
    ∃ child, t.contexts[s.contexts.length]? = some child ∧ t.tokens.isCancelled child.token = true := by
  rcases Option.map_eq_some_iff.mp stepped with ⟨found, is', rfl⟩
  rw [is] at is'
  cases is'
  refine ⟨_, List.getElem?_concat_length, ?_⟩
  rw [Tokens.child]
  exact (isCancelled_set_self _ _ _).trans cancelled

/-- Contexts after any operations on them. A context is cancelled exactly if some context was cancelled, at any
time, that shares its token or the token of an ancestor; a child of a cancelled one is cancelled at once, and a
cancelled child reaches neither its parent nor its siblings. The deadline of a context is the earliest of those
that were set for it and, before it was made, for its source. Every operation can be carried out on every
context that there is, loosens no deadline, and changes no context but one whose deadline it sets. What a
scripted run answers is so after some operations. -/
theorem contexts_follow_derivation (ops : List Operation) (s : State) (ran : State.initial.run ops = some s) :
    s.contexts.length = (origins ops).length ∧
    (∀ i ctx, s.contexts[i]? = some ctx →
      (s.tokens.isCancelled ctx.token = true ↔ ∃ c, .cancel c ∈ ops ∧ Heeds (origins ops) c i) ∧
      IsEarliest (Applied ops i) ctx.deadline) ∧
    (∀ child parent, (origins ops)[child]? = some (.child parent) → ¬ Heeds (origins ops) child parent ∧
      ∀ sibling, sibling ≠ child → (origins ops)[sibling]? = some (.child parent) →
        ¬ Heeds (origins ops) child sibling) ∧
    (∀ source ctx t, s.contexts[source]? = some ctx → s.tokens.isCancelled ctx.token = true →
      s.step (.child source) = some t →
      ∃ child, t.contexts[s.contexts.length]? = some child ∧ t.tokens.isCancelled child.token = true) ∧
    (∀ op, ((∃ t, s.step op = some t) ↔ ∀ i, op.subject? = some i → i < s.contexts.length) ∧
      ∀ t, s.step op = some t → ∀ i ctx, s.contexts[i]? = some ctx →
        ∃ ctx', t.contexts[i]? = some ctx' ∧ ctx'.token = ctx.token ∧
          (∀ d, ctx.deadline = some d → ∃ d', ctx'.deadline = some d' ∧ d' ≤ d) ∧
          ((∀ deadline, op ≠ .withDeadline i deadline) → ctx' = ctx)) ∧
    ∀ script answers, IsSensible [] script → Scenario.Context.State.initial.run script = some answers →
      ∀ answer ∈ answers, ∃ ops t, State.initial.run ops = some t ∧ answer.now = t.now ∧
        ∀ cancelled deadline, answer.context = some (cancelled, deadline) →
          ∃ ctx ∈ t.contexts, cancelled = t.tokens.isCancelled ctx.token ∧ deadline = ctx.deadline := by
  have grown := State.grown ran
  have told := State.told ran
  refine ⟨State.length_eq ran, ?_, ?_, ?_, ?_, fun script answers => run_of_script⟩
  · intro i ctx is
    have holds := State.held_of_context is
    have known := grown.known _ (List.mem_of_getElem? holds)
    refine ⟨?_, (State.bound ran).earliest i ctx is⟩
    rw [told.told _ known]
    constructor
    · rintro ⟨c, given, member, found, under⟩
      exact ⟨c, member, (grown.under_iff_heeds holds found).mp under⟩
    · rintro ⟨c, member, heeds⟩
      have found := List.getElem?_eq_getElem (told.exist c member)
      exact ⟨c, _, member, found, (grown.under_iff_heeds holds found).mpr heeds⟩
  · intro child parent is
    refine ⟨grown.not_heeds_child is, ?_⟩
    intro sibling differ is'
    exact grown.not_heeds_sibling is is' differ
  · intro source ctx t is cancelled stepped
    exact State.child_cancelled is cancelled stepped
  · intro op
    refine ⟨s.exists_step_iff op, ?_⟩
    intro t stepped i ctx is
    exact State.step_keeps stepped is

def family : List Operation :=
  [.make, .child 0, .cancel 0, .child 1, .withDeadline 2 7, .clone 2, .withDeadline 3 5]

theorem contexts_follow_derivation_of_clone :
    ∃ s, State.initial.run family = some s ∧ s.contexts[2]? = some ⟨"2", some 7⟩ ∧
      s.contexts[3]? = some ⟨"2", some 5⟩ ∧ s.tokens.isCancelled "2" = true ∧
      IsEarliest (Applied family 3) (some 5) ∧ ¬ Heeds (origins family) 1 0 := by
  have ran : State.initial.run family = some
      ⟨0, ⟨[("0", ⟨none, true⟩), ("1", ⟨some "0", true⟩), ("2", ⟨some "1", true⟩)]⟩,
        [⟨"0", none⟩, ⟨"1", none⟩, ⟨"2", some 7⟩, ⟨"2", some 5⟩]⟩ := by decide
  rcases contexts_follow_derivation family _ ran with ⟨_, told, children, _⟩
  rcases told 3 ⟨"2", some 5⟩ rfl with ⟨cancelled, earliest⟩
  have root : Heeds (origins family) 0 0 := .shares (.own rfl trivial) (.own rfl trivial)
  have child : Heeds (origins family) 0 1 := .descends (.own rfl trivial) rfl root
  have clone : TokenOf (origins family) 3 2 := .clone rfl (.own rfl trivial)
  have heeds : Heeds (origins family) 0 3 := .descends clone rfl child
  exact ⟨_, ran, rfl, rfl, cancelled.mpr ⟨0, by decide, heeds⟩, earliest, (children 1 0 rfl).1⟩

end PlaceGateway.ContextTree
