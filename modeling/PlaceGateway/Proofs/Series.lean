import Mathlib.Data.List.Infix
import Mathlib.Data.List.Nodup
import PlaceGateway.Proofs.Bytes
import PlaceGateway.Proofs.Table
import PlaceGateway.Series
/-! What the series of metrics tell: no two of them share a name, so each value is one count. -/

namespace PlaceGateway

theorem Operation.mem_all (o : Operation) : o ∈ Operation.all := by
  cases o <;> decide

namespace Series

/-- The value of a series. One that does not exist has counted nothing. -/
def value (series : List (String × Int)) (name : String) : Int := (series.lookup name).getD 0

theorem lookup_counted (name : String) (counts : List (String × Nat)) (distinct : (counts.map Prod.fst).Nodup) :
    (counted counts).lookup name = ((counts.lookup name).filter (· ≠ 0)).map Nat.cast := by
  induction counts with
  | nil => rfl
  | cons count rest ih =>
      rcases count with ⟨own, n⟩
      rcases List.nodup_cons.mp distinct with ⟨fresh, distinct⟩
      have later := ih distinct
      rw [counted] at later ⊢
      rw [Table.lookup_cons_ite]
      by_cases zero : n = 0
      · rw [List.filterMap_cons_none (by simp [zero]), later]
        by_cases same : name = own
        · subst same
          simp [Table.lookup_eq_none_of_notMem _ _ fresh, Option.filter_some, zero]
        · rw [if_neg same]
      · rw [List.filterMap_cons_some (b := (own, (n : Int))) (by simp [zero]), Table.lookup_cons_ite]
        by_cases same : name = own
        · simp [same, Option.filter_some, zero]
        · rw [if_neg same, if_neg same, later]

theorem mem_of_mem_counted {name : String} {counts : List (String × Nat)}
    (member : name ∈ (counted counts).map Prod.fst) : name ∈ counts.map Prod.fst := by
  rcases List.mem_map.mp member with ⟨series, found, rfl⟩
  rcases List.mem_filterMap.mp found with ⟨count, present, made⟩
  have same : count.1 = series.1 := by
    split at made
    · cases made
    · exact congrArg Prod.fst (Option.some.inj made)
  exact List.mem_map.mpr ⟨count, present, same⟩

theorem value_counted (name : String) (counts : List (String × Nat)) (distinct : (counts.map Prod.fst).Nodup) :
    value (counted counts) name = ((counts.lookup name).getD 0 : Nat) := by
  rw [value, lookup_counted name counts distinct]
  cases counts.lookup name with
  | none => rfl
  | some n => by_cases zero : n = 0 <;> simp [Option.filter_some, zero]

def fetchCounts (s : Fetch.State) : List (String × Nat) :=
  [(hits, s.counters.hits), (misses, s.counters.misses), (readErrors, s.counters.readErrors),
    (writeErrors, s.counters.writeErrors), (shared, s.flight.group.shared)]

theorem ofFetches_eq (s : Fetch.State) : ofFetches s = counted (fetchCounts s) := by
  rw [ofFetches, ofFlights, counted, counted, ← List.filterMap_append]
  rfl

theorem value_ofFetches (s : Fetch.State) {name : String} {n : Nat} (member : (name, n) ∈ fetchCounts s) :
    value (ofFetches s) name = n := by
  have distinct : ((fetchCounts s).map Prod.fst).Nodup := by
    have names : [hits, misses, readErrors, writeErrors, shared].Nodup := by decide +kernel
    exact names
  rw [ofFetches_eq, value_counted name _ distinct, (Table.lookup_eq_some_iff name n _ distinct).mpr member,
    Option.getD_some]

inductive Metric where
  | inFlight
  | durations
  | requests
  deriving DecidableEq

def Metric.stem (o : Operation) : Metric → String
  | inFlight => Series.inFlight o
  | durations => Series.durations o
  | requests => "places_rpc_requests_total\x7bmethod=" ++ o.name ++ ",status="

def Metric.Names (m : Metric) (o : Operation) (name : String) : Prop := (m.stem o).toList <+: name.toList

theorem Metric.stem_unique : ∀ m ∈ [inFlight, durations, requests], ∀ o ∈ Operation.all,
    ∀ m' ∈ [inFlight, durations, requests], ∀ o' ∈ Operation.all,
      (m.stem o).toList <+: (m'.stem o').toList → m = m' ∧ o = o' := by
  -- Bytes are there to be compared, while characters would have to be decoded first.
  have unique : ∀ m ∈ [inFlight, durations, requests], ∀ o ∈ Operation.all,
      ∀ m' ∈ [inFlight, durations, requests], ∀ o' ∈ Operation.all,
        (Bytes.ofText (m.stem o)).map UInt8.toNat <+: (Bytes.ofText (m'.stem o')).map UInt8.toNat →
          m = m' ∧ o = o' := by decide +kernel
  intro m metric o operation m' metric' o' operation' below
  apply unique m metric o operation m' metric' o' operation'
  rw [Bytes.ofText_eq_flatMap, Bytes.ofText_eq_flatMap]
  exact (List.IsPrefix.flatMap below _).map _

theorem requests_eq (o : Operation) (status : String) :
    requests o status = Metric.requests.stem o ++ (status ++ "\x7d") := by
  have stem : Metric.requests.stem o = "places_rpc_requests_total\x7bmethod=" ++ o.name ++ ",status=" := rfl
  rw [stem, requests, labelled, List.map_cons, List.map_cons, List.map_nil, String.intercalate_cons_cons,
    String.intercalate_singleton]
  apply String.ext
  simp

theorem requests_injective (o : Operation) : Function.Injective (requests o) := by
  intro status status' same
  rw [requests_eq, requests_eq, String.append_right_inj, String.append_left_inj] at same
  exact same

theorem Metric.Names.unique {m m' : Metric} {o o' : Operation} {name : String} (first : m.Names o name)
    (second : m'.Names o' name) : m = m' ∧ o = o' := by
  rcases List.prefix_or_prefix_of_prefix first second with below | below
  · exact stem_unique m (by cases m <;> decide) o o.mem_all m' (by cases m' <;> decide) o' o'.mem_all below
  · have same := stem_unique m' (by cases m' <;> decide) o' o'.mem_all m (by cases m <;> decide) o o.mem_all below
    exact ⟨same.1.symm, same.2.symm⟩

theorem Metric.Names.ne {m m' : Metric} {o o' : Operation} {name name' : String} (first : m.Names o name)
    (second : m'.Names o' name') (differs : m ≠ m') : name ≠ name' := by
  rintro rfl
  exact differs (first.unique second).1

section Calls

variable {o : Operation} {m : Metric} {name status : String} (t : Metered.Tally) (s : Metered.State)

theorem names_inFlight (o : Operation) : Metric.inFlight.Names o (inFlight o) := List.prefix_rfl

theorem names_durations (o : Operation) : Metric.durations.Names o (durations o) := List.prefix_rfl

theorem names_requests (o : Operation) (status : String) : Metric.requests.Names o (requests o status) := by
  rw [Metric.Names, requests_eq, String.toList_append]
  exact List.prefix_append _ _

theorem inFlight_ne_durations (o : Operation) : inFlight o ≠ durations o :=
  (names_inFlight o).ne (names_durations o) (by decide)

theorem inFlight_ne_requests (o : Operation) (status : String) : inFlight o ≠ requests o status :=
  (names_inFlight o).ne (names_requests o status) (by decide)

theorem durations_ne_requests (o : Operation) (status : String) : durations o ≠ requests o status :=
  (names_durations o).ne (names_requests o status) (by decide)

def endings (o : Operation) (t : Metered.Tally) : List (String × Nat) :=
  (durations o, t.durations) :: t.requests.entries.map fun r => (requests o r.1, r.2)

theorem lookup_requests (o : Operation) (status : String) (entries : List (String × Nat)) :
    (entries.map fun r => (requests o r.1, r.2)).lookup (requests o status) = entries.lookup status := by
  induction entries with
  | nil => rfl
  | cons entry rest ih =>
      rcases entry with ⟨own, n⟩
      rw [List.map_cons, Table.lookup_cons_ite, Table.lookup_cons_ite, ih]
      simp only [(requests_injective o).eq_iff]

theorem mem_endings {name : String} (member : name ∈ (endings o t).map Prod.fst) :
    name = durations o ∨ ∃ status, name = requests o status := by
  rw [endings, List.map_cons, List.map_map, List.mem_cons, List.mem_map] at member
  rcases member with rfl | ⟨entry, _, rfl⟩
  · exact .inl rfl
  · exact .inr ⟨entry.1, rfl⟩

theorem endings_nodup (distinct : t.requests.keys.Nodup) : ((endings o t).map Prod.fst).Nodup := by
  rw [endings, List.map_cons, List.map_map, List.nodup_cons]
  constructor
  · intro member
    rcases List.mem_map.mp member with ⟨entry, _, same⟩
    exact durations_ne_requests o entry.1 same.symm
  · have mapped := distinct.map (requests_injective o)
    rwa [Table.keys, List.map_map] at mapped

theorem ofTally_eq (o : Operation) : ofTally o t = (t.inFlight.map fun n => (inFlight o, n)).toList ++
    counted (endings o t) := rfl

theorem names_of_mem_ofTally {name : String} (member : name ∈ (ofTally o t).map Prod.fst) :
    ∃ m : Metric, m.Names o name := by
  rw [ofTally_eq, List.map_append, List.mem_append] at member
  rcases member with running | ended
  · cases gauge : t.inFlight with
    | none =>
        rw [gauge] at running
        cases running
    | some n =>
        rw [gauge] at running
        rw [List.mem_singleton.mp running]
        exact ⟨_, names_inFlight o⟩
  · rcases mem_endings t (mem_of_mem_counted ended) with rfl | ⟨status, rfl⟩
    · exact ⟨_, names_durations o⟩
    · exact ⟨_, names_requests o status⟩

theorem lookup_flatMap {α β : Type} [DecidableEq α] (f : α → List (String × β)) {a : α} {name : String} (l : List α)
    (others : ∀ b ∈ l, b ≠ a → (f b).lookup name = none) :
    (l.flatMap f).lookup name = if a ∈ l then (f a).lookup name else none := by
  induction l with
  | nil => rfl
  | cons b rest ih =>
      rw [List.flatMap_cons, List.lookup_append, ih fun b member => others b (List.mem_cons_of_mem _ member)]
      by_cases same : b = a
      · subst same
        rw [if_pos List.mem_cons_self]
        split
        · exact Option.or_self
        · exact Option.or_none
      · rw [others b List.mem_cons_self same, Option.none_or]
        simp [Ne.symm same]

theorem lookup_ofCalls (names : m.Names o name) : (ofCalls s).lookup name = (ofTally o (s.tally o)).lookup name := by
  refine (lookup_flatMap _ _ ?_).trans (if_pos o.mem_all)
  intro other _ differs
  apply Table.lookup_eq_none_of_notMem
  intro member
  rcases names_of_mem_ofTally (s.tally other) member with ⟨m', others⟩
  exact differs (others.unique names).2

theorem value_inFlight (o : Operation) : value (ofCalls s) (inFlight o) = (s.tally o).inFlight.getD 0 := by
  rw [value, lookup_ofCalls s (names_inFlight o), ofTally_eq, List.lookup_append]
  cases (s.tally o).inFlight with
  | some n => simp
  | none =>
      have absent : (counted (endings o (s.tally o))).lookup (inFlight o) = none := by
        refine Table.lookup_eq_none_of_notMem _ _ fun member => ?_
        rcases mem_endings (s.tally o) (mem_of_mem_counted member) with same | ⟨status, same⟩
        · exact inFlight_ne_durations o same
        · exact inFlight_ne_requests o status same
      rw [Option.map_none, Option.toList_none, List.lookup_nil, Option.none_or, absent]

theorem value_endings (distinct : (s.tally o).requests.keys.Nodup) (names : m.Names o name)
    (other : name ≠ inFlight o) :
    value (ofCalls s) name = (((endings o (s.tally o)).lookup name).getD 0 : Nat) := by
  rw [← value_counted name _ (endings_nodup _ distinct), value, lookup_ofCalls s names, ofTally_eq, value,
    List.lookup_append]
  cases (s.tally o).inFlight with
  | none => rfl
  | some n => simp [Table.lookup_cons_ite, other]

theorem value_durations (distinct : (s.tally o).requests.keys.Nodup) :
    value (ofCalls s) (durations o) = (s.tally o).durations := by
  rw [value_endings s distinct (names_durations o) (inFlight_ne_durations o).symm, endings, Table.lookup_cons_ite,
    if_pos rfl, Option.getD_some]

theorem value_requests (distinct : (s.tally o).requests.keys.Nodup) (status : String) :
    value (ofCalls s) (requests o status) = ((s.tally o).requests.get? status).getD 0 := by
  rw [value_endings s distinct (names_requests o status) (inFlight_ne_requests o status).symm, endings,
    Table.lookup_cons_ite, if_neg (durations_ne_requests o status).symm, lookup_requests, Table.get?]

end Calls

end Series

end PlaceGateway
