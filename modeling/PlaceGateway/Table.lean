/-! Finite maps from texts, in the order in which their keys were first set. -/

namespace PlaceGateway

structure Table (α : Type) where
  entries : List (String × α)
  deriving DecidableEq, Repr

namespace Table

variable {α : Type}

def empty : Table α := ⟨[]⟩

instance : Inhabited (Table α) := ⟨empty⟩

def get? (t : Table α) (key : String) : Option α := t.entries.lookup key

def contains (t : Table α) (key : String) : Bool := (t.get? key).isSome

def setEntry (key : String) (a : α) : List (String × α) → List (String × α)
  | [] => [(key, a)]
  | entry :: rest => if entry.1 = key then (key, a) :: rest else entry :: setEntry key a rest

def set (t : Table α) (key : String) (a : α) : Table α := ⟨setEntry key a t.entries⟩

def erase (t : Table α) (key : String) : Table α := ⟨t.entries.filter fun entry => entry.1 != key⟩

def keys (t : Table α) : List String := t.entries.map Prod.fst

def size (t : Table α) : Nat := t.entries.length

theorem lookup_cons_ite (k other : String) (b : α) (rest : List (String × α)) :
    ((k, b) :: rest).lookup other = if other = k then some b else rest.lookup other := by
  rw [List.lookup_cons]
  by_cases h : other = k
  · simp [h]
  · have : (other == k) = false := by simpa using h
    simp [h, this]

theorem lookup_setEntry (key other : String) (a : α) (entries : List (String × α)) :
    (setEntry key a entries).lookup other =
      if other = key then some a else entries.lookup other := by
  induction entries with
  | nil => rw [setEntry, lookup_cons_ite]
  | cons entry rest ih =>
    obtain ⟨k, b⟩ := entry
    by_cases hk : k = key
    · subst hk
      by_cases h : other = k <;> simp [setEntry, lookup_cons_ite, h]
    · by_cases h : other = k
      · subst h
        simp [setEntry, hk]
      · simp [setEntry, lookup_cons_ite, hk, h, ih]

@[simp]
theorem get?_set (t : Table α) (key other : String) (a : α) :
    (t.set key a).get? other = if other = key then some a else t.get? other :=
  lookup_setEntry key other a t.entries

@[simp]
theorem get?_empty (key : String) : (empty : Table α).get? key = none := rfl

theorem lookup_erase (key other : String) (entries : List (String × α)) :
    (entries.filter fun entry => entry.1 != key).lookup other =
      if other = key then none else entries.lookup other := by
  induction entries with
  | nil => simp
  | cons entry rest ih =>
    obtain ⟨k, b⟩ := entry
    by_cases hk : k = key
    · subst hk
      rw [List.filter_cons_of_neg (by simp), ih, lookup_cons_ite]
      by_cases h : other = k <;> simp [h]
    · by_cases h : other = k
      · subst h
        simp [hk]
      · simp [hk, lookup_cons_ite, h, ih]

@[simp]
theorem get?_erase (t : Table α) (key other : String) :
    (t.erase key).get? other = if other = key then none else t.get? other :=
  lookup_erase key other t.entries

end Table

end PlaceGateway
