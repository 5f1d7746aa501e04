import Mathlib.Data.List.Induction
import PlaceGateway.Proofs.Digits
import PlaceGateway.Proofs.Tokens
import PlaceGateway.Scenario.Context
/-! Contexts that are made of one another. A clone shares the token of its source, a child has a token below
that of its source, and both start with the deadline of their source. Who is cancelled with whom, and which
deadlines bind a context, is told by the operations that were carried out. -/

namespace PlaceGateway.ContextTree

open Tokens (Links Under)

/-- Contexts are numbered in the order in which they are made. -/
inductive Operation where
  | make
  | clone (source : Nat)
  | child (source : Nat)
  | withDeadline (target : Nat) (deadline : Instant)
  | cancel (target : Nat)
  | advance (nanos : Nat)
  deriving DecidableEq, Repr

inductive Origin where
  | new
  | clone (source : Nat)
  | child (source : Nat)
  deriving DecidableEq, Repr

def Origin.HasOwnToken : Origin → Prop
  | clone _ => False
  | new | child _ => True

namespace Operation

def subject? : Operation → Option Nat
  | clone i | child i | withDeadline i _ | cancel i => some i
  | make | advance _ => none

def source? : Operation → Option Nat
  | clone source | child source => some source
  | _ => none

def origin? : Operation → Option Origin
  | make => some .new
  | clone source => some (.clone source)
  | child source => some (.child source)
  | _ => none

end Operation

def origins (ops : List Operation) : List Origin := ops.filterMap Operation.origin?

/-- The context has the token that was made for the other one. -/
inductive TokenOf (made : List Origin) : Nat → Nat → Prop
  | own {i : Nat} {origin : Origin} (is : made[i]? = some origin) (own : origin.HasOwnToken) : TokenOf made i i
  | clone {i source owner : Nat} (is : made[i]? = some (.clone source)) (shared : TokenOf made source owner) :
    TokenOf made i owner

/-- The context shares the token of the given one, or the token of one of its ancestors does. -/
inductive Heeds (made : List Origin) (given : Nat) : Nat → Prop
  | shares {i owner : Nat} (own : TokenOf made i owner) (shared : TokenOf made given owner) : Heeds made given i
  | descends {i owner parent : Nat} (own : TokenOf made i owner) (below : made[owner]? = some (.child parent))
    (above : Heeds made given parent) : Heeds made given i

/-- The deadline was set for the context, or for its source before the context was made of it. -/
inductive Applied : List Operation → Nat → Instant → Prop
  | own {front rest : List Operation} {i : Nat} {t : Instant} : Applied (front ++ .withDeadline i t :: rest) i t
  | inherited {front rest : List Operation} {op : Operation} {source : Nat} {t : Instant}
    (makes : op.source? = some source) (before : Applied front source t) :
    Applied (front ++ op :: rest) (origins front).length t

/-- The earliest of some instants, or none when there are none. -/
def IsEarliest (among : Instant → Prop) : Option Instant → Prop
  | none => ∀ t, ¬ among t
  | some d => among d ∧ ∀ t, among t → d ≤ t

structure State where
  now : Instant
  tokens : Tokens
  contexts : List CallContext
  deriving DecidableEq, Repr

namespace State

def initial : State := ⟨0, .empty, []⟩

def freshToken (s : State) : TokenId := toString s.tokens.size

def step (s : State) : Operation → Option State
  | .make =>
    some { s with tokens := s.tokens.root s.freshToken, contexts := s.contexts ++ [⟨s.freshToken, none⟩] }
  | .clone source => s.contexts[source]?.map fun ctx => { s with contexts := s.contexts ++ [ctx] }
  | .child source =>
    s.contexts[source]?.map fun ctx =>
      { s with
        tokens := s.tokens.child ctx.token s.freshToken
        contexts := s.contexts ++ [ctx.child s.freshToken] }
  | .withDeadline target t =>
    s.contexts[target]?.map fun ctx => { s with contexts := s.contexts.set target (ctx.withDeadline t) }
  | .cancel target => s.contexts[target]?.map fun ctx => { s with tokens := s.tokens.cancel ctx.token }
  | .advance nanos => some { s with now := s.now + nanos }

def run (s : State) : List Operation → Option State
  | [] => some s
  | op :: rest => (s.step op).bind (·.run rest)

def held (s : State) : List TokenId := s.contexts.map CallContext.token

end State

/-- Contexts by their origins, the tokens that they hold, and the tokens with their parents. -/
inductive Grown : List Origin → List TokenId → Links → Prop
  | start : Grown [] [] []
  | new {made : List Origin} {held : List TokenId} {links : Links} (before : Grown made held links) :
    Grown (made ++ [.new]) (held ++ [toString links.length]) (links ++ [(toString links.length, none)])
  | clone {made : List Origin} {held : List TokenId} {links : Links} {source : Nat} {id : TokenId}
    (before : Grown made held links) (found : held[source]? = some id) :
    Grown (made ++ [.clone source]) (held ++ [id]) links
  | child {made : List Origin} {held : List TokenId} {links : Links} {source : Nat} {id : TokenId}
    (before : Grown made held links) (found : held[source]? = some id) :
    Grown (made ++ [.child source]) (held ++ [toString links.length])
      (links ++ [(toString links.length, some id)])

def Fits (held : List TokenId) (links : Links) (i : Nat) : Origin → Prop
  | .new => ∃ own, held[i]? = some own ∧ links.lookup own = some none
  | .clone source => source < i ∧ ∃ id, held[i]? = some id ∧ held[source]? = some id
  | .child source =>
    source < i ∧ ∃ own id, held[i]? = some own ∧ held[source]? = some id ∧ links.lookup own = some (some id)

variable {made : List Origin} {held : List TokenId} {links : Links} {s t : State} {op : Operation}
  {ops : List Operation} {i j owner : Nat}

theorem getElem?_concat_eq_some_iff {α : Type} {l : List α} {a b : α} :
    (l ++ [a])[i]? = some b ↔ l[i]? = some b ∨ i = l.length ∧ a = b := by
  by_cases inside : i < l.length
  · rw [List.getElem?_append_left inside]
    constructor
    · exact .inl
    · rintro (found | ⟨last, _⟩)
      · exact found
      · omega
  · have none : l[i]? = none := List.getElem?_eq_none (by omega)
    rw [none]
    by_cases last : i = l.length
    · subst last
      simp
    · have beyond : (l ++ [a])[i]? = Option.none := List.getElem?_eq_none (by simp; omega)
      simp [beyond, last]

theorem getElem?_concat_of_some {α : Type} {l : List α} {b : α} (found : l[i]? = some b) (a : α) :
    (l ++ [a])[i]? = some b :=
  getElem?_concat_eq_some_iff.mpr (.inl found)

theorem Fits.concat {origin : Origin} (fits : Fits held links i origin) (id : TokenId) :
    Fits (held ++ [id]) links i origin := by
  cases origin with
  | new =>
      rcases fits with ⟨own, found, linked⟩
      exact ⟨own, getElem?_concat_of_some found id, linked⟩
  | clone source =>
      rcases fits with ⟨earlier, shared, found, same⟩
      exact ⟨earlier, shared, getElem?_concat_of_some found id, getElem?_concat_of_some same id⟩
  | child source =>
      rcases fits with ⟨earlier, own, above, found, same, linked⟩
      exact ⟨earlier, own, above, getElem?_concat_of_some found id, getElem?_concat_of_some same id, linked⟩

theorem Fits.link {origin : Origin} (fits : Fits held links i origin) (link : TokenId × Option TokenId) :
    Fits held (links ++ [link]) i origin := by
  have kept {own : TokenId} {parent : Option TokenId} (linked : links.lookup own = some parent) :
      (links ++ [link]).lookup own = some parent :=
    (Tokens.lookup_concat (Tokens.name_of_lookup linked) link).trans linked
  cases origin with
  | new =>
      rcases fits with ⟨own, found, linked⟩
      exact ⟨own, found, kept linked⟩
  | clone source => exact fits
  | child source =>
      rcases fits with ⟨earlier, own, above, found, same, linked⟩
      exact ⟨earlier, own, above, found, same, kept linked⟩

namespace Grown

theorem length (grown : Grown made held links) : held.length = made.length := by
  induction grown with
  | start => rfl
  | new _ ih | clone _ _ ih | child _ _ ih => simp [ih]

theorem named (grown : Grown made held links) :
    ∀ name ∈ links.map Prod.fst, ∃ n, n < links.length ∧ name = toString n := by
  induction grown with
  | start => simp
  | clone _ _ ih => exact ih
  | @new _ _ links _ ih | @child _ _ links _ _ _ _ ih =>
      intro name member
      rw [List.map_append, List.mem_append] at member
      rw [List.length_append]
      rcases member with member | last
      · rcases ih name member with ⟨n, low, same⟩
        exact ⟨n, Nat.lt_add_right _ low, same⟩
      · exact ⟨links.length, Nat.lt_add_one _, List.mem_singleton.mp last⟩

theorem fresh (grown : Grown made held links) : toString links.length ∉ links.map Prod.fst := by
  intro member
  rcases grown.named _ member with ⟨n, low, same⟩
  have equal : links.length = n := Digits.toString_injective same
  omega

theorem known (grown : Grown made held links) : ∀ id ∈ held, id ∈ links.map Prod.fst := by
  induction grown with
  | start => simp
  | new _ ih | child _ _ ih =>
      intro id member
      rw [List.map_append, List.mem_append]
      rcases List.mem_append.mp member with member | last
      · exact .inl (ih id member)
      · exact .inr last
  | clone _ found ih =>
      intro id member
      rcases List.mem_append.mp member with member | last
      · exact ih id member
      · rw [List.mem_singleton.mp last]
        exact ih _ (List.mem_of_getElem? found)

theorem unheld (grown : Grown made held links) : held[i]? ≠ some (toString links.length) :=
  fun found => grown.fresh (grown.known _ (List.mem_of_getElem? found))

theorem ordered (grown : Grown made held links) : Tokens.Ordered links := by
  induction grown with
  | start => exact .nil
  | new before ih => exact ih.concat before.fresh (by simp)
  | clone _ _ ih => exact ih
  | child before found ih =>
      apply ih.concat before.fresh
      intro p same
      cases same
      exact before.known _ (List.mem_of_getElem? found)

theorem lookup_fresh (grown : Grown made held links) (parent : Option TokenId) :
    (links ++ [(toString links.length, parent)]).lookup (toString links.length) = some parent := by
  rw [List.lookup_append, Table.lookup_eq_none_of_notMem _ _ grown.fresh]
  simp

theorem lt_length (grown : Grown made held links) {id : TokenId} (found : held[i]? = some id) :
    i < made.length := by
  rw [← grown.length]
  exact (List.getElem?_eq_some_iff.mp found).1

theorem fits (grown : Grown made held links) {origin : Origin} (is : made[i]? = some origin) :
    Fits held links i origin := by
  induction grown with
  | start => simp at is
  | new before ih =>
      rcases getElem?_concat_eq_some_iff.mp is with is | ⟨rfl, rfl⟩
      · exact ((ih is).concat _).link _
      · refine ⟨_, ?_, before.lookup_fresh none⟩
        rw [← before.length, List.getElem?_concat_length]
  | clone before found ih =>
      rcases getElem?_concat_eq_some_iff.mp is with is | ⟨rfl, rfl⟩
      · exact (ih is).concat _
      · refine ⟨before.lt_length found, _, ?_, getElem?_concat_of_some found _⟩
        rw [← before.length, List.getElem?_concat_length]
  | child before found ih =>
      rcases getElem?_concat_eq_some_iff.mp is with is | ⟨rfl, rfl⟩
      · exact ((ih is).concat _).link _
      · refine ⟨before.lt_length found, _, _, ?_, getElem?_concat_of_some found _, before.lookup_fresh _⟩
        rw [← before.length, List.getElem?_concat_length]

theorem apart (grown : Grown made held links) {x y : Origin} {id : TokenId} (is : made[i]? = some x)
    (is' : made[j]? = some y) (own : x.HasOwnToken) (own' : y.HasOwnToken) (holds : held[i]? = some id)
    (holds' : held[j]? = some id) : i = j := by
  induction grown with
  | start => simp at is
  | new before ih | child before _ ih =>
      rcases getElem?_concat_eq_some_iff.mp holds with holds | ⟨rfl, same⟩
      · rcases getElem?_concat_eq_some_iff.mp holds' with holds' | ⟨rfl, same'⟩
        · rw [List.getElem?_append_left (before.lt_length holds)] at is
          rw [List.getElem?_append_left (before.lt_length holds')] at is'
          exact ih is is' holds holds'
        · exact absurd (same' ▸ holds) before.unheld
      · rcases getElem?_concat_eq_some_iff.mp holds' with holds' | ⟨rfl, _⟩
        · exact absurd (same ▸ holds') before.unheld
        · rfl
  -- A clone has no token of its own, so both were there before it.
  | clone before _ ih =>
      rcases getElem?_concat_eq_some_iff.mp is with is | ⟨_, rfl⟩
      · rcases getElem?_concat_eq_some_iff.mp is' with is' | ⟨_, rfl⟩
        · have inside := (List.getElem?_eq_some_iff.mp is).1
          have inside' := (List.getElem?_eq_some_iff.mp is').1
          rw [List.getElem?_append_left (by rw [before.length]; exact inside)] at holds
          rw [List.getElem?_append_left (by rw [before.length]; exact inside')] at holds'
          exact ih is is' holds holds'
        · exact own'.elim
      · exact own.elim

end Grown

namespace TokenOf

theorem owner_own (shared : TokenOf made i owner) :
    ∃ origin, made[owner]? = some origin ∧ origin.HasOwnToken := by
  induction shared with
  | own is own => exact ⟨_, is, own⟩
  | clone _ _ ih => exact ih

theorem held_eq (grown : Grown made held links) (shared : TokenOf made i owner) :
    ∃ id, held[i]? = some id ∧ held[owner]? = some id := by
  induction shared with
  | @own _ origin is own =>
      cases origin with
      | new =>
          rcases grown.fits is with ⟨id, found, _⟩
          exact ⟨id, found, found⟩
      | clone source => exact own.elim
      | child source =>
          rcases grown.fits is with ⟨_, id, _, found, _⟩
          exact ⟨id, found, found⟩
  | clone is _ ih =>
      rcases grown.fits is with ⟨_, id, found, same⟩
      rcases ih with ⟨id', found', owned⟩
      rw [same] at found'
      cases found'
      exact ⟨id, found, owned⟩

theorem held_owner (grown : Grown made held links) (shared : TokenOf made i owner) {id : TokenId}
    (holds : held[i]? = some id) : held[owner]? = some id := by
  rcases shared.held_eq grown with ⟨_, found, owned⟩
  rw [holds] at found
  cases found
  exact owned

theorem unique (shared : TokenOf made i owner) (shared' : TokenOf made i j) : owner = j := by
  induction shared with
  | own is own =>
      cases shared' with
      | own _ _ => rfl
      | clone is' _ =>
          rw [is] at is'
          cases is'
          exact own.elim
  | clone is _ ih =>
      cases shared' with
      | own is' own =>
          rw [is] at is'
          cases is'
          exact own.elim
      | clone is' shared' =>
          rw [is] at is'
          cases is'
          exact ih shared'

theorem le (grown : Grown made held links) (shared : TokenOf made i owner) : owner ≤ i := by
  induction shared with
  | own _ _ => exact Nat.le_refl _
  | clone is _ ih => exact Nat.le_trans ih (Nat.le_of_lt (grown.fits is).1)

end TokenOf

namespace Grown

theorem exists_tokenOf (grown : Grown made held links) (inside : i < made.length) :
    ∃ owner, TokenOf made i owner := by
  induction i using Nat.strongRecOn with
  | ind i ih =>
      have is : made[i]? = some made[i] := List.getElem?_eq_getElem inside
      cases origin : made[i] with
      | new =>
          rw [origin] at is
          exact ⟨i, .own is trivial⟩
      | clone source =>
          rw [origin] at is
          have earlier := (grown.fits is).1
          rcases ih source earlier (Nat.lt_trans earlier inside) with ⟨owner, shared⟩
          exact ⟨owner, .clone is shared⟩
      | child source =>
          rw [origin] at is
          exact ⟨i, .own is trivial⟩

theorem exists_owner (grown : Grown made held links) {id : TokenId} (holds : held[i]? = some id) :
    ∃ owner origin, TokenOf made i owner ∧ held[owner]? = some id ∧ made[owner]? = some origin ∧
      origin.HasOwnToken := by
  rcases grown.exists_tokenOf (grown.lt_length holds) with ⟨owner, shared⟩
  rcases shared.owner_own with ⟨origin, is, own⟩
  exact ⟨owner, origin, shared, shared.held_owner grown holds, is, own⟩

theorem parent_of_new (grown : Grown made held links) (is : made[i]? = some .new) {own : TokenId}
    (holds : held[i]? = some own) : links.lookup own = some none := by
  rcases grown.fits is with ⟨_, found, linked⟩
  rw [holds] at found
  cases found
  exact linked

theorem parent_of_child (grown : Grown made held links) {source : Nat} (is : made[i]? = some (.child source))
    {own : TokenId} (holds : held[i]? = some own) :
    ∃ id, held[source]? = some id ∧ links.lookup own = some (some id) := by
  rcases grown.fits is with ⟨_, _, id, found, same, linked⟩
  rw [holds] at found
  cases found
  exact ⟨id, same, linked⟩

theorem under_iff_heeds (grown : Grown made held links) {own id : TokenId} (holds : held[i]? = some own)
    (given : held[j]? = some id) : Under links id own ↔ Heeds made j i := by
  constructor
  · intro under
    induction under generalizing i with
    | self =>
        rcases grown.exists_owner holds with ⟨owner, _, shared, owned, is, own⟩
        rcases grown.exists_owner given with ⟨owner', _, shared', owned', is', own'⟩
        have same := grown.apart is is' own own' owned owned'
        rw [← same] at shared'
        exact .shares shared shared'
    | child linked _ ih =>
        rcases grown.exists_owner holds with ⟨owner, origin, shared, owned, is, own⟩
        cases origin with
        | new =>
            rw [grown.parent_of_new is owned] at linked
            cases linked
        | clone source => exact own.elim
        | child source =>
            rcases grown.parent_of_child is owned with ⟨above, known, linked'⟩
            rw [linked] at linked'
            cases linked'
            exact .descends shared is (ih known)
  · intro heeds
    induction heeds generalizing own with
    | shares shared shared' =>
        have owned := shared.held_owner grown holds
        rw [shared'.held_owner grown given] at owned
        cases owned
        exact .self
    | descends shared below _ ih =>
        rcases grown.parent_of_child below (shared.held_owner grown holds) with ⟨above, known, linked⟩
        exact .child linked (ih known)

theorem not_heeds_child (grown : Grown made held links) {child parent : Nat}
    (is : made[child]? = some (.child parent)) : ¬ Heeds made child parent := by
  -- What heeds the child has a token no older than the child, and the token of the parent is older.
  have owner_le {i owner : Nat} (heeds : Heeds made child i) (own : TokenOf made i owner) : child ≤ owner := by
    induction heeds generalizing owner with
    | shares own' shared =>
        have first : child = _ := TokenOf.unique (.own is trivial) shared
        have second := own'.unique own
        omega
    | descends own' below _ ih =>
        have earlier := (grown.fits below).1
        rcases grown.exists_tokenOf (Nat.lt_trans earlier (List.getElem?_eq_some_iff.mp below).1) with
          ⟨above, shared⟩
        have first := ih shared
        have second := shared.le grown
        rw [own'.unique own] at earlier
        omega
  intro heeds
  have earlier := (grown.fits is).1
  rcases grown.exists_tokenOf (Nat.lt_trans earlier (List.getElem?_eq_some_iff.mp is).1) with ⟨owner, shared⟩
  have first := owner_le heeds shared
  have second := shared.le grown
  omega

theorem not_heeds_sibling (grown : Grown made held links) {child sibling parent : Nat}
    (is : made[child]? = some (.child parent)) (is' : made[sibling]? = some (.child parent))
    (differ : sibling ≠ child) : ¬ Heeds made child sibling := by
  intro heeds
  cases heeds with
  | shares own shared =>
      have first := own.unique (.own is' trivial)
      have second := shared.unique (.own is trivial)
      exact differ (first.symm.trans second)
  | descends own below above =>
      have same := own.unique (.own is' trivial)
      rw [same, is'] at below
      cases below
      exact grown.not_heeds_child is above

end Grown

theorem State.run_append (t : State) (front rest : List Operation) :
    t.run (front ++ rest) = (t.run front).bind (·.run rest) := by
  induction front generalizing t with
  | nil => rfl
  | cons op front ih =>
      rw [List.cons_append, run, run]
      cases t.step op with
      | none => rfl
      | some next => exact ih next

theorem State.run_singleton (t : State) (op : Operation) : t.run [op] = t.step op := by
  rw [run]
  cases t.step op <;> rfl

end PlaceGateway.ContextTree
