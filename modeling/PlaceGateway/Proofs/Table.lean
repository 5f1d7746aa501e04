import Mathlib.Data.List.Nodup
import PlaceGateway.Table
/-! Entries of finite maps, and the keys that their entries have. -/

namespace PlaceGateway

namespace Table

variable {α : Type}

theorem lookup_eq_none_of_notMem (key : String) (entries : List (String × α))
    (absent : key ∉ entries.map Prod.fst) : entries.lookup key = none := by
  induction entries with
  | nil => rfl
  | cons entry rest ih =>
      obtain ⟨k, b⟩ := entry
      simp only [List.map_cons, List.mem_cons, not_or] at absent
      rw [lookup_cons_ite, if_neg absent.1, ih absent.2]

theorem exists_lookup (key : String) (entries : List (String × α)) (present : key ∈ entries.map Prod.fst) :
    ∃ a, entries.lookup key = some a := by
  induction entries with
  | nil => cases present
  | cons entry rest ih =>
      obtain ⟨k, b⟩ := entry
      rw [lookup_cons_ite]
      by_cases same : key = k
      · exact ⟨b, if_pos same⟩
      · rw [if_neg same]
        exact ih ((List.mem_cons.mp present).resolve_left same)

theorem lookup_eq_some_iff (key : String) (a : α) (entries : List (String × α))
    (distinct : (entries.map Prod.fst).Nodup) :
    entries.lookup key = some a ↔ (key, a) ∈ entries := by
  induction entries with
  | nil => simp
  | cons entry rest ih =>
      obtain ⟨k, b⟩ := entry
      obtain ⟨fresh, distinct⟩ := List.nodup_cons.mp distinct
      rw [lookup_cons_ite, List.mem_cons, Prod.mk.injEq]
      by_cases same : key = k
      · subst same
        have absent : (key, a) ∉ rest := fun member => fresh (List.mem_map.mpr ⟨(key, a), member, rfl⟩)
        simp [absent, eq_comm]
      · simp [same, ih distinct]

theorem get?_eq_some_iff (t : Table α) (distinct : t.keys.Nodup) {key : String} {a : α} :
    t.get? key = some a ↔ (key, a) ∈ t.entries :=
  lookup_eq_some_iff key a t.entries distinct

theorem ne_of_get? {t : Table α} {key other : String} {a : α} (present : t.get? key = some a)
    (absent : t.get? other = none) : key ≠ other := by
  rintro rfl
  rw [present] at absent
  cases absent

theorem lookup_filter (keep : α → Bool) (key : String) (entries : List (String × α))
    (distinct : (entries.map Prod.fst).Nodup) :
    (entries.filter fun entry => keep entry.2).lookup key = (entries.lookup key).filter keep := by
  induction entries with
  | nil => rfl
  | cons entry rest ih =>
      obtain ⟨k, b⟩ := entry
      obtain ⟨fresh, distinct⟩ := List.nodup_cons.mp distinct
      have later := ih distinct
      rw [lookup_cons_ite]
      by_cases kept : keep b = true
      · rw [List.filter_cons_of_pos (by simpa using kept), lookup_cons_ite]
        by_cases same : key = k
        · rw [if_pos same, if_pos same, Option.filter_some, if_pos kept]
        · rw [if_neg same, if_neg same, later]
      · rw [List.filter_cons_of_neg (by simpa using kept), later]
        by_cases same : key = k
        · subst same
          rw [if_pos rfl, lookup_eq_none_of_notMem _ _ fresh, Option.filter_some, if_neg kept]
          rfl
        · rw [if_neg same]

theorem setEntry_self (key : String) (a : α) (entries : List (String × α))
    (present : entries.lookup key = some a) : setEntry key a entries = entries := by
  induction entries with
  | nil => cases present
  | cons entry rest ih =>
      obtain ⟨k, b⟩ := entry
      rw [lookup_cons_ite] at present
      rw [setEntry]
      by_cases same : key = k
      · rw [if_pos same] at present
        cases present
        rw [if_pos same.symm, same]
      · rw [if_neg same] at present
        rw [if_neg (fun h => same h.symm), ih present]

theorem setEntry_of_notMem (key : String) (a : α) (entries : List (String × α))
    (absent : key ∉ entries.map Prod.fst) : setEntry key a entries = entries ++ [(key, a)] := by
  induction entries with
  | nil => rfl
  | cons entry rest ih =>
      simp only [List.map_cons, List.mem_cons, not_or] at absent
      rw [setEntry, if_neg (fun same => absent.1 same.symm), ih absent.2, List.cons_append]

theorem setEntry_map {β : Type} {name : β → String} {f g : β → α} {key : String} {a : α} (l : List β)
    (distinct : (l.map name).Nodup) (present : key ∈ l.map name) (own : ∀ b ∈ l, name b = key → g b = a)
    (others : ∀ b ∈ l, name b ≠ key → g b = f b) :
    setEntry key a (l.map fun b => (name b, f b)) = l.map fun b => (name b, g b) := by
  induction l with
  | nil => cases present
  | cons b rest ih =>
      rcases List.nodup_cons.mp distinct with ⟨fresh, distinct⟩
      have own_rest (c : β) (member : c ∈ rest) := own c (List.mem_cons_of_mem b member)
      have others_rest (c : β) (member : c ∈ rest) := others c (List.mem_cons_of_mem b member)
      rw [List.map_cons, List.map_cons, setEntry]
      by_cases same : name b = key
      · rw [if_pos same, own b List.mem_cons_self same, same]
        refine congrArg _ (List.map_congr_left fun c member => ?_)
        have differs : name c ≠ key := fun is => fresh (same ▸ is ▸ List.mem_map_of_mem member)
        rw [others_rest c member differs]
      · rw [if_neg same, others b List.mem_cons_self same]
        have later : key ∈ rest.map name := (List.mem_cons.mp present).resolve_left (Ne.symm same)
        rw [ih distinct later own_rest others_rest]

theorem set_self (t : Table α) (key : String) (a : α) (present : t.get? key = some a) :
    t.set key a = t := by
  rw [set, setEntry_self key a t.entries present]

theorem contains_eq_false_iff {t : Table α} {key : String} : t.contains key = false ↔ t.get? key = none := by
  rw [contains, Option.isSome_eq_false_iff, Option.isNone_iff_eq_none]

theorem contains_set {t : Table α} {other : String} (was : t.contains other = true) (key : String)
    (a : α) : (t.set key a).contains other = true := by
  rw [contains, get?_set]
  split
  · rfl
  · exact was

theorem get?_set_cases {t : Table α} {key other : String} {a b : α} (found : (t.set key a).get? other = some b) :
    (other = key ∧ a = b) ∨ (other ≠ key ∧ t.get? other = some b) := by
  rw [get?_set] at found
  split at found
  · rename_i same
    exact .inl ⟨same, Option.some.inj found⟩
  · rename_i differs
    exact .inr ⟨differs, found⟩

theorem get?_set_eq_none {t : Table α} {key other : String} {a : α} (absent : (t.set key a).get? other = none) :
    other ≠ key ∧ t.get? other = none := by
  rw [get?_set] at absent
  split at absent
  · cases absent
  · rename_i differs
    exact ⟨differs, absent⟩

theorem forall_set {P : String → α → Prop} {t : Table α} {key : String} {a : α}
    (all : ∀ other b, t.get? other = some b → P other b) (new : P key a) (other : String) (b : α)
    (present : (t.set key a).get? other = some b) : P other b := by
  rcases get?_set_cases present with ⟨rfl, rfl⟩ | ⟨_, present⟩
  · exact new
  · exact all other b present

theorem keys_setEntry (key : String) (a : α) (entries : List (String × α)) :
    (setEntry key a entries).map Prod.fst =
      if key ∈ entries.map Prod.fst then entries.map Prod.fst else entries.map Prod.fst ++ [key] := by
  induction entries with
  | nil => rfl
  | cons entry rest ih =>
      obtain ⟨k, b⟩ := entry
      rw [setEntry]
      by_cases same : k = key
      · simp [same]
      · have other : key ≠ k := fun h => same h.symm
        by_cases present : key ∈ rest.map Prod.fst <;> simp_all

theorem keys_set_nodup (t : Table α) (key : String) (a : α) (distinct : t.keys.Nodup) :
    (t.set key a).keys.Nodup := by
  change ((setEntry key a t.entries).map Prod.fst).Nodup
  rw [keys_setEntry]
  split
  · exact distinct
  · rename_i absent
    exact List.nodup_append.mpr ⟨distinct, List.nodup_singleton _, by
      intro k member k' last same
      rw [List.mem_singleton.mp last] at same
      exact absent (same ▸ member)⟩

def count (p : α → Bool) (t : Table α) : Nat := t.entries.countP fun entry => p entry.2

theorem countP_setEntry (p : α → Bool) (key : String) (a : α) (entries : List (String × α)) :
    (setEntry key a entries).countP (fun entry => p entry.2) + (entries.lookup key).elim 0 (fun b => (p b).toNat) =
      entries.countP (fun entry => p entry.2) + (p a).toNat := by
  induction entries with
  | nil => cases holds : p a <;> simp [setEntry, holds]
  | cons entry rest ih =>
      rcases entry with ⟨k, b⟩
      rw [setEntry, lookup_cons_ite]
      by_cases same : k = key
      · rw [if_pos same, if_pos same.symm]
        cases old : p b <;> cases new : p a <;> simp [old, new]
      · rw [if_neg same, if_neg (Ne.symm same)]
        simp only [List.countP_cons]
        omega

theorem count_set (p : α → Bool) (t : Table α) (key : String) (a : α) :
    (t.set key a).count p + (t.get? key).elim 0 (fun b => (p b).toNat) = t.count p + (p a).toNat :=
  countP_setEntry p key a t.entries

theorem size_eq_count (t : Table α) : t.size = t.count fun _ => true := by
  simp [size, count]

theorem size_set_of_some {t : Table α} {key : String} {b : α} (present : t.get? key = some b) (a : α) :
    (t.set key a).size = t.size := by
  have counted := count_set (fun _ => true) t key a
  rw [present] at counted
  rw [size_eq_count, size_eq_count]
  exact Nat.add_right_cancel counted

theorem size_set_of_none {t : Table α} {key : String} (absent : t.get? key = none) (a : α) :
    (t.set key a).size = t.size + 1 := by
  have counted := count_set (fun _ => true) t key a
  rw [absent] at counted
  rw [size_eq_count, size_eq_count]
  exact counted

theorem keys_filter_nodup (t : Table α) (keep : String × α → Bool) (distinct : t.keys.Nodup) :
    (⟨t.entries.filter keep⟩ : Table α).keys.Nodup :=
  distinct.sublist (List.filter_sublist.map Prod.fst)

def restrict (t : Table α) (keep : String → Bool) : Table α := ⟨t.entries.filter fun entry => keep entry.1⟩

variable {keep : String → Bool} {key : String}

theorem lookup_restrict (keep : String → Bool) (key : String) (entries : List (String × α)) :
    (entries.filter fun entry => keep entry.1).lookup key = if keep key then entries.lookup key else none := by
  induction entries with
  | nil => split <;> rfl
  | cons entry rest ih =>
      obtain ⟨k, b⟩ := entry
      rw [List.filter_cons, lookup_cons_ite]
      by_cases same : key = k
      · subst same
        rw [if_pos rfl]
        cases kept : keep key with
        | true => rw [if_pos rfl, lookup_cons_ite, if_pos rfl, if_pos rfl]
        | false =>
            rw [if_neg (by decide), ih, kept]
            rfl
      · rw [if_neg same]
        split
        · rw [lookup_cons_ite, if_neg same, ih]
        · exact ih

theorem get?_restrict (t : Table α) (kept : keep key = true) : (t.restrict keep).get? key = t.get? key := by
  rw [restrict, get?, lookup_restrict, if_pos kept, get?]

theorem get?_restrict_eq_some_iff (t : Table α) {a : α} :
    (t.restrict keep).get? key = some a ↔ t.get? key = some a ∧ keep key = true := by
  rw [restrict, get?, lookup_restrict, get?]
  cases keep key <;> simp

theorem contains_restrict (t : Table α) (kept : keep key = true) :
    (t.restrict keep).contains key = t.contains key := by
  rw [contains, get?_restrict t kept, contains]

theorem setEntry_restrict (keep : String → Bool) (key : String) (a : α) (entries : List (String × α)) :
    ((setEntry key a entries).filter fun entry => keep entry.1) =
      if keep key then setEntry key a (entries.filter fun entry => keep entry.1)
      else entries.filter fun entry => keep entry.1 := by
  induction entries with
  | nil => cases kept : keep key <;> simp [setEntry, kept]
  | cons entry rest ih =>
      obtain ⟨k, b⟩ := entry
      rw [setEntry]
      by_cases same : k = key
      · subst same
        cases kept : keep k <;> simp [setEntry, kept]
      · rw [if_neg same, List.filter_cons, List.filter_cons, ih]
        cases kept : keep key <;> cases other : keep k <;> simp [setEntry, same]

theorem set_restrict (t : Table α) (kept : keep key = true) (a : α) :
    (t.set key a).restrict keep = (t.restrict keep).set key a := by
  rw [restrict, set, setEntry_restrict, if_pos kept]
  rfl

theorem set_restrict_of_not (t : Table α) (dropped : keep key = false) (a : α) :
    (t.set key a).restrict keep = t.restrict keep := by
  rw [restrict, set, setEntry_restrict, dropped]
  rfl

theorem erase_restrict (t : Table α) (keep : String → Bool) (key : String) :
    (t.erase key).restrict keep = (t.restrict keep).erase key := by
  rw [restrict, erase, restrict, erase, List.filter_filter, List.filter_filter]
  simp only [Bool.and_comm]

theorem erase_restrict_of_not (t : Table α) (dropped : keep key = false) :
    (t.erase key).restrict keep = t.restrict keep := by
  rw [restrict, erase, List.filter_filter, restrict]
  refine congrArg Table.mk (List.filter_congr fun entry _ => ?_)
  by_cases same : entry.1 = key
  · rw [same, dropped]
    rfl
  · rw [bne_iff_ne.mpr same, Bool.and_true]

end Table

end PlaceGateway
