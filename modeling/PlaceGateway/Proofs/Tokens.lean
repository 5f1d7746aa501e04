import PlaceGateway.Proofs.Flight.Step
import PlaceGateway.Proofs.Table
/-! Tokens and their parents. A cancellation reaches the token that it is asked of and all that descend from
it, and leaves every parent as it is. -/

namespace PlaceGateway.Tokens

abbrev Links := List (TokenId × Option TokenId)

def linksOf (entries : List (TokenId × Token)) : Links := entries.map fun entry => (entry.1, entry.2.parent)

def links (ts : Tokens) : Links := linksOf ts.entries

/-- Every token has a name of its own, and comes after its parent. -/
def Ordered (links : Links) : Prop :=
  (links.map Prod.fst).Nodup ∧
    ∀ front own parent rest, links = front ++ (own, some parent) :: rest → parent ∈ front.map Prod.fst

inductive Under (links : Links) (id : TokenId) : TokenId → Prop
  | self : Under links id id
  | child {own parent : TokenId} (linked : links.lookup own = some (some parent))
      (above : Under links id parent) : Under links id own

variable {ts : Tokens} {links : Links} {id own other : TokenId} {token : Token} {parent : Option TokenId}

theorem concat_eq_append_cons {α : Type} {l front rest : List α} {a b : α}
    (split : l ++ [a] = front ++ b :: rest) :
    rest = [] ∧ front = l ∧ b = a ∨ ∃ before, rest = before ++ [a] ∧ l = front ++ b :: before := by
  rcases List.eq_nil_or_concat rest with empty | ⟨before, last, ends⟩
  · subst empty
    have parts := List.append_inj' split rfl
    exact .inl ⟨rfl, parts.1.symm, (List.cons.inj parts.2).1.symm⟩
  · subst ends
    rw [List.concat_eq_append, ← List.cons_append, ← List.append_assoc] at split
    have parts := List.append_inj' split rfl
    rw [List.concat_eq_append, ← (List.cons.inj parts.2).1]
    exact .inr ⟨before, rfl, parts.1⟩

theorem names_linksOf (entries : List (TokenId × Token)) :
    (linksOf entries).map Prod.fst = entries.map Prod.fst := by
  simp [linksOf]

theorem mem_of_lookup (linked : links.lookup own = some parent) : (own, parent) ∈ links := by
  induction links with
  | nil => cases linked
  | cons link rest ih =>
      rw [Table.lookup_cons_ite] at linked
      split at linked
      · rename_i same
        cases linked
        rw [same]
        exact List.mem_cons_self
      · exact List.mem_cons_of_mem _ (ih linked)

theorem name_of_lookup (linked : links.lookup own = some parent) : own ∈ links.map Prod.fst :=
  List.mem_map.mpr ⟨_, mem_of_lookup linked, rfl⟩

theorem lookup_concat (known : own ∈ links.map Prod.fst) (link : TokenId × Option TokenId) :
    (links ++ [link]).lookup own = links.lookup own := by
  rcases Table.exists_lookup own links known with ⟨parent, found⟩
  rw [List.lookup_append, found, Option.some_or]

namespace Ordered

theorem nil : Ordered [] := by
  constructor
  · exact List.nodup_nil
  · intro front own parent rest split
    simp at split

theorem parent_mem {above : TokenId} (ordered : Ordered links) (linked : links.lookup own = some (some above)) :
    above ∈ links.map Prod.fst := by
  rcases List.append_of_mem (mem_of_lookup linked) with ⟨front, rest, split⟩
  have earlier := ordered.2 front own above rest split
  rw [split, List.map_append]
  exact List.mem_append_left _ earlier

theorem concat (ordered : Ordered links) (fresh : own ∉ links.map Prod.fst)
    (above : ∀ p, parent = some p → p ∈ links.map Prod.fst) : Ordered (links ++ [(own, parent)]) := by
  constructor
  · rw [List.map_append]
    apply List.nodup_append.mpr
    refine ⟨ordered.1, List.nodup_singleton _, ?_⟩
    intro name member last isLast same
    rw [same, List.mem_singleton.mp isLast] at member
    exact fresh member
  · intro front other p rest split
    rcases concat_eq_append_cons split with ⟨_, rfl, same⟩ | ⟨before, _, earlier⟩
    · exact above p (Prod.mk.inj same).2.symm
    · exact ordered.2 front other p before earlier

theorem under_concat (ordered : Ordered links) (known : own ∈ links.map Prod.fst)
    (link : TokenId × Option TokenId) : Under (links ++ [link]) id own ↔ Under links id own := by
  constructor
  · intro under
    induction under with
    | self => exact .self
    | child linked _ ih =>
        rw [lookup_concat known] at linked
        exact .child linked (ih (ordered.parent_mem linked))
  · intro under
    induction under with
    | self => exact .self
    | child linked _ ih =>
        have known := name_of_lookup linked
        exact .child ((lookup_concat known link).trans linked) (ih (ordered.parent_mem linked))

end Ordered

theorem under_last (fresh : own ∉ links.map Prod.fst) (differs : id ≠ own) :
    Under (links ++ [(own, parent)]) id own ↔ ∃ p, parent = some p ∧ Under (links ++ [(own, parent)]) id p := by
  have found : (links ++ [(own, parent)]).lookup own = some parent := by
    have absent : links.lookup own = none := Table.lookup_eq_none_of_notMem own links fresh
    rw [List.lookup_append, absent]
    simp
  constructor
  · intro under
    cases under with
    | self => exact absurd rfl differs
    | child linked above =>
        rw [found] at linked
        exact ⟨_, Option.some.inj linked, above⟩
  · intro above
    rcases above with ⟨p, rfl, under⟩
    exact .child found under

theorem links_set (absent : own ∉ ts.links.map Prod.fst) (token : Token) :
    Tokens.links (Table.set ts own token) = ts.links ++ [(own, token.parent)] := by
  rw [Tokens.links, names_linksOf] at absent
  rw [Tokens.links, Table.set, Table.setEntry_of_notMem own token ts.entries absent]
  simp [Tokens.links, linksOf]

theorem links_mark (id : TokenId) (marked : List TokenId) (entries : List (TokenId × Token)) :
    linksOf (mark id marked entries) = linksOf entries := by
  induction entries generalizing marked with
  | nil => rfl
  | cons entry rest ih =>
      rw [mark]
      split
      · exact congrArg (_ :: ·) (ih _)
      · exact congrArg (_ :: ·) (ih _)

theorem links_cancel (ts : Tokens) (id : TokenId) : (ts.cancel id).links = ts.links :=
  links_mark id [] ts.entries

/-- The marks once the entries in front are gone through: of their tokens those below the given one, and no
token that is not below it. -/
structure Marks (ts : Tokens) (id : TokenId) (front : List (TokenId × Token)) (marked : List TokenId) : Prop where
  sound : ∀ own ∈ marked, Under ts.links id own
  complete : ∀ own ∈ front.map Prod.fst, Under ts.links id own → own ∈ marked

theorem Marks.hit {front : List (TokenId × Token)} {marked : List TokenId} (marks : Marks ts id front marked)
    (under : Under ts.links id own) : Marks ts id (front ++ [(own, token)]) (own :: marked) where
  sound other member := by
    rcases List.mem_cons.mp member with rfl | member
    · exact under
    · exact marks.sound other member
  complete other member under := by
    rw [List.map_append, List.mem_append] at member
    rcases member with member | last
    · exact List.mem_cons_of_mem _ (marks.complete other member under)
    · rw [List.mem_singleton.mp last]
      exact List.mem_cons_self

theorem Marks.pass {front : List (TokenId × Token)} {marked : List TokenId} (marks : Marks ts id front marked)
    (apart : ¬ Under ts.links id own) : Marks ts id (front ++ [(own, token)]) marked where
  sound := marks.sound
  complete other member under := by
    rw [List.map_append, List.mem_append] at member
    rcases member with member | last
    · exact marks.complete other member under
    · rw [List.mem_singleton.mp last] at under
      exact absurd under apart

theorem Marks.next_iff (ordered : Ordered ts.links) {front rest : List (TokenId × Token)}
    (split : ts.entries = front ++ (own, token) :: rest) {marked : List TokenId}
    (marks : Marks ts id front marked) :
    own = id ∨ token.parent.any (marked.contains ·) = true ↔ Under ts.links id own := by
  have linksSplit : ts.links = linksOf front ++ (own, token.parent) :: linksOf rest := by
    rw [Tokens.links, split]
    simp [linksOf]
  have linked : ts.links.lookup own = some token.parent := by
    rw [Table.lookup_eq_some_iff own token.parent ts.links ordered.1, linksSplit]
    simp
  constructor
  · intro here
    rcases here with rfl | above
    · exact .self
    · rcases (Option.any_eq_true _ _).mp above with ⟨p, is, member⟩
      rw [is] at linked
      exact .child linked (marks.sound p (by simpa using member))
  · intro under
    cases under with
    | self => exact .inl rfl
    | @child _ p above under =>
        rw [linked] at above
        have is : token.parent = some p := Option.some.inj above
        -- A parent stands before its child, so it has been gone through.
        have earlier : p ∈ (linksOf front).map Prod.fst := by
          apply ordered.2 (linksOf front) own p (linksOf rest)
          rw [linksSplit, is]
        rw [names_linksOf] at earlier
        right
        rw [is]
        simpa using marks.complete p earlier under

theorem Marks.mark (ordered : Ordered ts.links) (front entries : List (TokenId × Token))
    (split : ts.entries = front ++ entries) (marked : List TokenId) (marks : Marks ts id front marked)
    (found : entries.lookup own = some token) :
    ∃ after, (Tokens.mark id marked entries).lookup own = some after ∧
      (after.cancelled = true ↔ token.cancelled = true ∨ Under ts.links id own) := by
  -- The entries in front grow while the rest shrinks, and the marks keep up with them.
  induction entries generalizing front marked with
  | nil => cases found
  | cons entry rest ih =>
      rcases entry with ⟨first, held⟩
      have reached := Marks.next_iff ordered split marks
      have split' : ts.entries = (front ++ [(first, held)]) ++ rest := by
        rw [split]
        simp
      rw [Table.lookup_cons_ite] at found
      rw [Tokens.mark]
      split
      · rename_i here
        rw [Table.lookup_cons_ite]
        split
        · rename_i same
          rw [if_pos same] at found
          cases found
          rw [same]
          exact ⟨_, rfl, iff_of_true rfl (.inr (reached.mp here))⟩
        · rename_i differs
          rw [if_neg differs] at found
          exact ih _ split' _ (marks.hit (reached.mp here)) found
      · rename_i elsewhere
        have apart : ¬ Under ts.links id first := fun under => elsewhere (reached.mpr under)
        rw [Table.lookup_cons_ite]
        split
        · rename_i same
          rw [if_pos same] at found
          cases found
          rw [same]
          refine ⟨_, rfl, ?_⟩
          rw [or_iff_left apart]
        · rename_i differs
          rw [if_neg differs] at found
          exact ih _ split' _ (marks.pass apart) found

theorem isCancelled_cancel_iff (ordered : Ordered ts.links) (known : own ∈ ts.links.map Prod.fst) :
    (ts.cancel id).isCancelled own = true ↔ ts.isCancelled own = true ∨ Under ts.links id own := by
  rw [Tokens.links, names_linksOf] at known
  rcases Table.exists_lookup own ts.entries known with ⟨token, found⟩
  have start : Marks ts id [] [] := ⟨by simp, by simp⟩
  rcases Marks.mark ordered [] ts.entries rfl [] start found with ⟨after, found', told⟩
  have before : ts.isCancelled own = token.cancelled := by
    rw [isCancelled, Table.get?, found]
    rfl
  have afterwards : (ts.cancel id).isCancelled own = after.cancelled := by
    rw [isCancelled, Table.get?, cancel, found']
    rfl
  rw [before, afterwards]
  exact told

end PlaceGateway.Tokens
