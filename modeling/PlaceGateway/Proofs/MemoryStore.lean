import PlaceGateway.MemoryStore
import PlaceGateway.Proofs.Table
/-! What reads, writes and purges of the in-memory cache do to the entry of a key. -/

namespace PlaceGateway

theorem filter_filter_of_imp {α : Type} {p q : α → Bool} (narrower : ∀ a, q a = true → p a = true)
    (a : Option α) : (a.filter p).filter q = a.filter q := by
  rw [Option.filter_filter]
  congr 1
  funext a
  cases kept : q a with
  | false => exact Bool.and_false _
  | true => rw [narrower a kept, Bool.and_true]

theorem MemoryEntry.isExpired_of_le {now now' : Instant} (later : now ≤ now') {entry : MemoryEntry}
    (live : entry.isExpired now' = false) : entry.isExpired now = false := by
  obtain ⟨value, _ | deadline⟩ := entry
  · rfl
  · simp only [isExpired, Option.any_some, decide_eq_false_iff_not, Nat.not_le] at live ⊢
    exact Nat.lt_of_le_of_lt later live

namespace MemoryStore

variable {s t : MemoryStore} {now : Instant} {key : String}

def stored? (s : MemoryStore) (key : String) : Option MemoryEntry := s.entries.get? key

def Distinct (s : MemoryStore) : Prop := s.entries.keys.Nodup

/-- Nothing changed but that expired entries are gone. -/
def Drops (now : Instant) (s t : MemoryStore) : Prop :=
  ∀ key, t.stored? key = s.stored? key ∨
    t.stored? key = none ∧ ∃ entry, s.stored? key = some entry ∧ entry.isExpired now = true

theorem Drops.refl (now : Instant) (s : MemoryStore) : Drops now s s := fun _ => .inl rfl

theorem Drops.of_some (drops : Drops now s t) {entry : MemoryEntry} (found : t.stored? key = some entry) :
    s.stored? key = some entry := by
  rcases drops key with same | ⟨gone, _⟩
  · rwa [same] at found
  · rw [gone] at found
    cases found

theorem Drops.keeps (drops : Drops now s t) {entry : MemoryEntry} (found : s.stored? key = some entry)
    (live : entry.isExpired now = false) : t.stored? key = some entry := by
  rcases drops key with same | ⟨_, old, was, expired⟩
  · rwa [same]
  · rw [found] at was
    cases was
    rw [live] at expired
    cases expired

theorem Drops.live (drops : Drops now s t) (key : String) :
    ((t.stored? key).filter fun entry => !entry.isExpired now) =
      (s.stored? key).filter fun entry => !entry.isExpired now := by
  rcases drops key with same | ⟨gone, entry, was, expired⟩
  · rw [same]
  · rw [gone, was, Option.filter_some, expired]
    rfl

theorem get_drops (s : MemoryStore) (now : Instant) (key : String) : Drops now s (s.get now key).1 := by
  rw [get]
  split
  · exact .refl now s
  · rename_i entry found
    split
    · rename_i expired
      intro other
      by_cases same : other = key
      · subst same
        exact .inr ⟨by simp [stored?], entry, found, expired⟩
      · exact .inl (by simp [stored?, same])
    · exact .refl now s

theorem get_snd (s : MemoryStore) (now : Instant) (key : String) :
    (s.get now key).2 =
      ((s.stored? key).filter fun entry => !entry.isExpired now).map MemoryEntry.value := by
  rw [get]
  change _ = ((s.entries.get? key).filter fun entry => !entry.isExpired now).map MemoryEntry.value
  split
  · rename_i absent
    rw [absent]
    rfl
  · rename_i entry found
    rw [found]
    cases expired : entry.isExpired now <;> simp [expired, Option.filter_some]

theorem stored?_purge (distinct : s.Distinct) (now : Instant) (key : String) :
    (s.purge now).1.stored? key = (s.stored? key).filter fun entry => !entry.isExpired now :=
  Table.lookup_filter (fun entry : MemoryEntry => !entry.isExpired now) key s.entries.entries distinct

theorem purge_drops (distinct : s.Distinct) (now : Instant) : Drops now s (s.purge now).1 := by
  intro key
  rw [stored?_purge distinct]
  cases found : s.stored? key with
  | none => exact .inl rfl
  | some entry =>
      cases expired : entry.isExpired now with
      | false => exact .inl (by simp [expired])
      | true => exact .inr ⟨by simp [expired], entry, rfl, expired⟩

def keysOf (s : MemoryStore) (test : MemoryEntry → Bool) : List String :=
  (s.entries.entries.filter fun entry => test entry.2).map Prod.fst

theorem keysOf_nodup (distinct : s.Distinct) (test : MemoryEntry → Bool) : (s.keysOf test).Nodup :=
  Table.keys_filter_nodup _ _ distinct

theorem mem_keysOf_iff (distinct : s.Distinct) (test : MemoryEntry → Bool) (key : String) :
    key ∈ s.keysOf test ↔ ∃ entry, s.stored? key = some entry ∧ test entry = true := by
  have listed (entry : MemoryEntry) : s.stored? key = some entry ↔ (key, entry) ∈ s.entries.entries :=
    Table.get?_eq_some_iff s.entries distinct
  simp only [keysOf, List.mem_map, List.mem_filter, listed]
  constructor
  · rintro ⟨⟨own, entry⟩, both, rfl⟩
    exact ⟨entry, both⟩
  · rintro ⟨entry, both⟩
    exact ⟨(key, entry), both, rfl⟩

theorem purge_count (s : MemoryStore) (now : Instant) :
    (s.purge now).2 = (s.keysOf fun entry => entry.isExpired now).length := by
  have all := List.length_eq_length_filter_add (l := s.entries.entries) fun entry => entry.2.isExpired now
  rw [keysOf, List.length_map]
  exact Nat.sub_eq_of_eq_add all

theorem size_purge (s : MemoryStore) (now : Instant) :
    (s.purge now).1.size = (s.keysOf fun entry => !entry.isExpired now).length := by
  rw [keysOf, List.length_map]
  rfl

theorem stored?_of_set? {value : Bytes} {ttl : Option Duration} (written : s.set? now key value ttl = some t)
    (other : String) :
    t.stored? other =
      if other = key then some ⟨value, ttl.map fun d => now + d.nanos⟩ else s.stored? other := by
  cases ttl with
  | none =>
      cases written
      exact Table.get?_set _ _ _ _
  | some d =>
      obtain ⟨deadline, reached, rfl⟩ := Option.map_eq_some_iff.mp written
      obtain ⟨_, rfl⟩ := Instant.add?_eq_some_iff.mp reached
      exact Table.get?_set _ _ _ _

theorem stored?_delete (s : MemoryStore) (key other : String) :
    (s.delete key).1.stored? other = if other = key then none else s.stored? other :=
  Table.get?_erase _ _ _

theorem distinct_empty : empty.Distinct := List.nodup_nil

theorem Distinct.get (distinct : s.Distinct) (now : Instant) (key : String) :
    (s.get now key).1.Distinct := by
  rw [MemoryStore.get]
  split
  · exact distinct
  · split
    · exact Table.keys_filter_nodup _ _ distinct
    · exact distinct

theorem Distinct.purge (distinct : s.Distinct) (now : Instant) : (s.purge now).1.Distinct :=
  Table.keys_filter_nodup _ _ distinct

theorem Distinct.delete (distinct : s.Distinct) (key : String) : (s.delete key).1.Distinct :=
  Table.keys_filter_nodup _ _ distinct

theorem Distinct.set? (distinct : s.Distinct) {value : Bytes} {ttl : Option Duration}
    (written : s.set? now key value ttl = some t) : t.Distinct := by
  cases ttl with
  | none =>
      cases written
      exact Table.keys_set_nodup _ _ _ distinct
  | some d =>
      obtain ⟨deadline, _, rfl⟩ := Option.map_eq_some_iff.mp written
      exact Table.keys_set_nodup _ _ _ distinct

end MemoryStore

end PlaceGateway
