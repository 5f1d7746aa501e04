import Mathlib.Algebra.GroupWithZero.Nat
import Mathlib.Data.List.Induction
import PlaceGateway.Proofs.MemoryStore
import PlaceGateway.Scenario.Store
/-! The cache in memory as a map whose entries end at their time. What a read finds is told by the
operations before it: the last write of the key, unless the key was deleted since or the lifetime is over. -/

namespace PlaceGateway.TimedMap

inductive Operation where
  | get (key : String)
  | set (key : String) (value : Bytes) (ttl : Option Duration)
  | delete (key : String)
  | purge
  | tick
  | advance (d : Duration)
  deriving DecidableEq, Repr

namespace Operation

def elapse : Operation → Nat
  | advance d => d.nanos
  | _ => 0

def reach : Operation → Nat
  | set _ _ ttl => (ValueStore.lifetime ttl).elim 0 Duration.nanos
  | advance d => d.nanos
  | _ => 0

def Touches (key : String) : Operation → Prop
  | set own _ _ | delete own => own = key
  | _ => False

/-- A read, a purge or a turn of the janitor. -/
def IsSilent : Operation → Prop
  | get _ | purge | tick => True
  | _ => False

end Operation

def InTime : Instant → List Operation → Prop
  | _, [] => True
  | now, op :: rest => now + op.reach < Instant.limit ∧ InTime (now + op.elapse) rest

def elapsed (ops : List Operation) : Nat := (ops.map Operation.elapse).sum

/-- The value was written at the given time, and the key was neither written nor deleted since. -/
def Stands (ops : List Operation) (key : String) (value : Bytes) (ttl : Option Duration)
    (written : Instant) : Prop :=
  ∃ front rest, ops = front ++ .set key value ttl :: rest ∧ written = elapsed front ∧
    ∀ op ∈ rest, ¬ op.Touches key

/-- There is no lifetime, or one of zero, or it is not over. -/
def Lasts (ttl : Option Duration) (written now : Instant) : Prop :=
  ∀ d, ttl = some d → d.nanos = 0 ∨ now < written + d.nanos

structure State where
  now : Instant
  store : MemoryStore
  deriving DecidableEq, Repr

namespace State

def initial : State := ⟨0, .empty⟩

def read (s : State) (key : String) : Option Bytes := ValueStore.found (.ok (s.store.get s.now key).2)

def step (s : State) : Operation → Option State
  | .get key => some { s with store := (s.store.get s.now key).1 }
  | .set key value ttl =>
    (s.store.set? s.now key value (ValueStore.lifetime ttl)).map fun store => { s with store }
  | .delete key => some { s with store := (s.store.delete key).1 }
  | .purge | .tick => some { s with store := (s.store.purge s.now).1 }
  | .advance d => (Instant.add? s.now d).map fun now => { s with now }

def run (s : State) : List Operation → Option State
  | [] => some s
  | op :: rest => (s.step op).bind (·.run rest)

end State

def entryAfter (key : String) (now : Instant) (entry : Option MemoryEntry) : Operation → Option MemoryEntry
  | .set own value ttl =>
    if own = key then some ⟨value, (ValueStore.lifetime ttl).map fun d => now + d.nanos⟩ else entry
  | .delete own => if own = key then none else entry
  | _ => entry

def entryAfterAll (key : String) : Instant → Option MemoryEntry → List Operation → Option MemoryEntry
  | _, entry, [] => entry
  | now, entry, op :: rest => entryAfterAll key (now + op.elapse) (entryAfter key now entry op) rest

variable {s t : State} {op : Operation} {ops : List Operation} {key : String} {now : Instant}

theorem State.now_of_step (stepped : s.step op = some t) : t.now = s.now + op.elapse := by
  cases op with
  | get _ | delete _ | purge | tick =>
    cases stepped
    rfl
  | set key value ttl =>
    obtain ⟨store, _, rfl⟩ := Option.map_eq_some_iff.mp stepped
    rfl
  | advance d =>
    obtain ⟨now, reached, rfl⟩ := Option.map_eq_some_iff.mp stepped
    exact (Instant.add?_eq_some_iff.mp reached).2

theorem State.now_of_run (ran : s.run ops = some t) : t.now = s.now + elapsed ops := by
  induction ops generalizing s with
  | nil =>
    cases ran
    rfl
  | cons op rest ih =>
    obtain ⟨next, stepped, later⟩ := Option.bind_eq_some_iff.mp ran
    rw [ih later, now_of_step stepped, elapsed, elapsed, List.map_cons, List.sum_cons, Nat.add_assoc]

theorem filter_live_of_le {now' : Instant} (later : now ≤ now') (entry : Option MemoryEntry) :
    (entry.filter fun entry => !entry.isExpired now).filter (fun entry => !entry.isExpired now') =
      entry.filter fun entry => !entry.isExpired now' := by
  refine filter_filter_of_imp (fun entry live => ?_) entry
  rw [MemoryEntry.isExpired_of_le later (Bool.not_eq_true' _ |>.mp live)]
  rfl

/-- In the store are the given entries, but that some of those that have expired may be gone. -/
structure Follows (s : State) (entries : String → Option MemoryEntry) : Prop where
  distinct : s.store.Distinct
  live : ∀ key, ((s.store.stored? key).filter fun entry => !entry.isExpired s.now) =
    (entries key).filter fun entry => !entry.isExpired s.now

namespace Follows

variable {entries : String → Option MemoryEntry}

theorem initial : Follows .initial fun _ => none := ⟨MemoryStore.distinct_empty, fun _ => rfl⟩

theorem drops (follows : Follows s entries) {store : MemoryStore} (distinct : store.Distinct)
    (drops : MemoryStore.Drops s.now s.store store) : Follows { s with store } entries :=
  ⟨distinct, fun key => (drops.live key).trans (follows.live key)⟩

theorem replace (follows : Follows s entries) {own : String} {entry : Option MemoryEntry} {store : MemoryStore}
    (distinct : store.Distinct)
    (changed : ∀ key, store.stored? key = if key = own then entry else s.store.stored? key) :
    Follows { s with store } fun key => if own = key then entry else entries key where
  distinct := distinct
  live key := by
    rw [changed]
    by_cases same : key = own
    · rw [if_pos same, if_pos same.symm]
    · rw [if_neg same, if_neg (Ne.symm same)]
      exact follows.live key

theorem advance (follows : Follows s entries) {now : Instant} (later : s.now ≤ now) :
    Follows { s with now } entries where
  distinct := follows.distinct
  live key := by
    rw [← filter_live_of_le later, follows.live, filter_live_of_le later]

theorem step (follows : Follows s entries) (stepped : s.step op = some t) :
    Follows t fun key => entryAfter key s.now (entries key) op := by
  cases op with
  | get own =>
    cases stepped
    exact follows.drops (follows.distinct.get _ _) (MemoryStore.get_drops _ _ _)
  | set own value ttl =>
    obtain ⟨store, written, rfl⟩ := Option.map_eq_some_iff.mp stepped
    exact follows.replace (follows.distinct.set? written) (MemoryStore.stored?_of_set? written)
  | delete own =>
    cases stepped
    exact follows.replace (follows.distinct.delete own) (MemoryStore.stored?_delete s.store own)
  | purge | tick =>
    cases stepped
    exact follows.drops (follows.distinct.purge _) (MemoryStore.purge_drops follows.distinct _)
  | advance d =>
    obtain ⟨now, reached, rfl⟩ := Option.map_eq_some_iff.mp stepped
    obtain ⟨_, rfl⟩ := Instant.add?_eq_some_iff.mp reached
    exact follows.advance (Nat.le_add_right _ _)

theorem run (follows : Follows s entries) (ran : s.run ops = some t) :
    Follows t fun key => entryAfterAll key s.now (entries key) ops := by
  induction ops generalizing s entries with
  | nil =>
    cases ran
    exact follows
  | cons op rest ih =>
    obtain ⟨next, stepped, later⟩ := Option.bind_eq_some_iff.mp ran
    have last := ih (follows.step stepped) later
    rw [State.now_of_step stepped] at last
    exact last

end Follows

theorem entryAfter_of_not_touches {entry : Option MemoryEntry} (untouched : ¬ op.Touches key) :
    entryAfter key now entry op = entry := by
  cases op with
  | set own value ttl => exact if_neg untouched
  | delete own => exact if_neg untouched
  | get _ | purge | tick | advance _ => rfl

theorem entryAfterAll_append (key : String) (now : Instant) (entry : Option MemoryEntry)
    (front rest : List Operation) :
    entryAfterAll key now entry (front ++ rest) =
      entryAfterAll key (now + elapsed front) (entryAfterAll key now entry front) rest := by
  induction front generalizing now entry with
  | nil => rfl
  | cons op front ih =>
    rw [List.cons_append, entryAfterAll, ih, entryAfterAll, elapsed, elapsed, List.map_cons, List.sum_cons,
      Nat.add_assoc]

theorem entryAfterAll_of_untouched {entry : Option MemoryEntry} (untouched : ∀ op ∈ ops, ¬ op.Touches key) :
    entryAfterAll key now entry ops = entry := by
  induction ops generalizing now with
  | nil => rfl
  | cons op rest ih =>
    rw [entryAfterAll, entryAfter_of_not_touches (untouched op List.mem_cons_self)]
    exact ih fun other member => untouched other (List.mem_cons_of_mem op member)

theorem entryAfterAll_of_stands {value : Bytes} {ttl : Option Duration} {written : Instant}
    (stands : Stands ops key value ttl written) :
    entryAfterAll key 0 none ops =
      some ⟨value, (ValueStore.lifetime ttl).map fun d => written + d.nanos⟩ := by
  obtain ⟨front, rest, rfl, rfl, untouched⟩ := stands
  rw [entryAfterAll_append, entryAfterAll, entryAfterAll_of_untouched untouched, entryAfter, if_pos rfl,
    Nat.zero_add]

theorem Stands.concat {value : Bytes} {ttl : Option Duration} {written : Instant}
    (stands : Stands ops key value ttl written) (untouched : ¬ op.Touches key) :
    Stands (ops ++ [op]) key value ttl written := by
  obtain ⟨front, rest, rfl, time, others⟩ := stands
  refine ⟨front, rest ++ [op], by rw [List.append_assoc, List.cons_append], time, ?_⟩
  intro other member
  rcases List.mem_append.mp member with before | last
  · exact others other before
  · rw [List.mem_singleton.mp last]
    exact untouched

theorem exists_stands {entry : MemoryEntry} (found : entryAfterAll key 0 none ops = some entry) :
    ∃ ttl written, Stands ops key entry.value ttl written := by
  induction ops using List.reverseRecOn with
  | nil => cases found
  | append_singleton before op ih =>
    by_cases touches : op.Touches key
    · rw [entryAfterAll_append, entryAfterAll, entryAfterAll] at found
      cases op with
      | set own value ttl =>
        obtain rfl : own = key := touches
        rw [entryAfter, if_pos rfl] at found
        cases found
        exact ⟨ttl, _, before, [], rfl, rfl, fun _ => nofun⟩
      | delete own =>
        obtain rfl : own = key := touches
        rw [entryAfter, if_pos rfl] at found
        cases found
      | get _ | purge | tick | advance _ => exact touches.elim
    · rw [entryAfterAll_append, entryAfterAll, entryAfterAll, entryAfter_of_not_touches touches] at found
      obtain ⟨ttl, written, stands⟩ := ih found
      exact ⟨ttl, written, stands.concat touches⟩

theorem isExpired_eq_false_iff (value : Bytes) (ttl : Option Duration) (written now : Instant) :
    (MemoryEntry.mk value ((ValueStore.lifetime ttl).map fun d => written + d.nanos)).isExpired now = false ↔
      Lasts ttl written now := by
  cases ttl with
  | none => exact iff_of_true rfl fun _ => nofun
  | some d =>
    rw [MemoryEntry.isExpired, ValueStore.lifetime, Option.filter_some, Lasts]
    cases zero : d.isZero with
    | true =>
      have none : d.nanos = 0 := beq_iff_eq.mp zero
      exact iff_of_true rfl fun _ same => .inl (Option.some.inj same ▸ none)
    | false =>
      have some_ : d.nanos ≠ 0 := ne_of_beq_false zero
      simp [some_]

theorem State.read_eq_some_iff (s : State) (key : String) (found : Bytes) :
    s.read key = some found ↔ found ≠ [] ∧ ∃ entry,
      (s.store.stored? key).filter (fun entry => !entry.isExpired s.now) = some entry ∧ entry.value = found := by
  rw [read, MemoryStore.get_snd]
  cases (s.store.stored? key).filter fun entry => !entry.isExpired s.now with
  | none => simp [ValueStore.found]
  | some entry =>
    simp only [ValueStore.found, Option.map_some, Option.some.injEq, exists_eq_left']
    split
    · rename_i empty
      exact iff_of_false nofun fun both => both.1 (both.2 ▸ empty)
    · rename_i filled
      rw [Option.some.injEq]
      exact ⟨fun same => ⟨same ▸ filled, same⟩, And.right⟩

theorem Follows.read_eq_some_iff {before : List Operation}
    (follows : Follows s fun key => entryAfterAll key 0 none before) (key : String) (found : Bytes) :
    s.read key = some found ↔
      ∃ ttl written, Stands before key found ttl written ∧ found ≠ [] ∧ Lasts ttl written s.now := by
  rw [s.read_eq_some_iff, follows.live]
  constructor
  · rintro ⟨filled, ⟨value, deadline⟩, present, rfl⟩
    obtain ⟨entry, alive⟩ := Option.filter_eq_some_iff.mp present
    obtain ⟨ttl, written, stands⟩ := exists_stands entry
    rw [entryAfterAll_of_stands stands] at entry
    cases entry
    exact ⟨ttl, written, stands, filled, (isExpired_eq_false_iff _ _ _ _).mp (by simpa using alive)⟩
  · rintro ⟨ttl, written, stands, filled, lasts⟩
    refine ⟨filled, _, Option.filter_eq_some_iff.mpr ⟨entryAfterAll_of_stands stands, ?_⟩, rfl⟩
    rw [(isExpired_eq_false_iff _ _ _ _).mpr lasts]
    rfl

theorem Follows.read_congr {entries : String → Option MemoryEntry} (follows : Follows s entries)
    (follows' : Follows t entries) (now : s.now = t.now) (key : String) : s.read key = t.read key := by
  refine Option.ext fun found => ?_
  rw [s.read_eq_some_iff, t.read_eq_some_iff, follows.live, follows'.live, now]

theorem Operation.elapse_le_reach (op : Operation) : op.elapse ≤ op.reach := by
  cases op with
  | advance d => exact Nat.le_refl _
  | get _ | set _ _ _ | delete _ | purge | tick => exact Nat.zero_le _

theorem State.isSome_step (s : State) (op : Operation) (started : s.now < Instant.limit) :
    (s.step op).isSome = true ↔ s.now + op.reach < Instant.limit := by
  cases op with
  | get _ | delete _ | purge | tick => exact iff_of_true rfl started
  | advance d =>
    rw [step, Option.isSome_map, Instant.add?]
    split <;> simp_all [Operation.reach]
  | set key value ttl =>
    rw [step, Option.isSome_map, Operation.reach]
    cases ValueStore.lifetime ttl with
    | none => exact iff_of_true rfl started
    | some d =>
      rw [MemoryStore.set?, Option.isSome_map, Instant.add?]
      split <;> simp_all

theorem State.isSome_run (s : State) (ops : List Operation) (started : s.now < Instant.limit) :
    (s.run ops).isSome = true ↔ InTime s.now ops := by
  induction ops generalizing s with
  | nil => exact iff_of_true rfl trivial
  | cons op rest ih =>
    rw [InTime, ← isSome_step s op started, run]
    cases stepped : s.step op with
    | none => simp
    | some next =>
      have moved := now_of_step stepped
      have onward : next.now < Instant.limit := by
        have reached := (isSome_step s op started).mp (Option.isSome_of_eq_some stepped)
        rw [moved]
        exact Nat.lt_of_le_of_lt (Nat.add_le_add_left op.elapse_le_reach s.now) reached
      rw [Option.bind_some, ih next onward, moved]
      exact (and_iff_right rfl).symm

theorem Operation.IsSilent.elapse (silent : op.IsSilent) : op.elapse = 0 := by
  cases op with
  | get _ | purge | tick => rfl
  | set _ _ _ | delete _ | advance _ => exact silent.elim

theorem Operation.IsSilent.not_touches (silent : op.IsSilent) (key : String) : ¬ op.Touches key := by
  cases op with
  | get _ | purge | tick => exact id
  | set _ _ _ | delete _ | advance _ => exact silent.elim

theorem inTime_of_silent {front rest : List Operation} (silent : op.IsSilent)
    (inTime : InTime now (front ++ op :: rest)) : InTime now (front ++ rest) := by
  induction front generalizing now with
  | nil =>
    have later := inTime.2
    rwa [silent.elapse] at later
  | cons first front ih => exact ⟨inTime.1, ih inTime.2⟩

theorem elapsed_of_silent {front rest : List Operation} (silent : op.IsSilent) :
    elapsed (front ++ op :: rest) = elapsed (front ++ rest) := by
  simp [elapsed, silent.elapse]

theorem entryAfterAll_of_silent {front rest : List Operation} (silent : op.IsSilent) (key : String) :
    entryAfterAll key 0 none (front ++ op :: rest) = entryAfterAll key 0 none (front ++ rest) := by
  rw [entryAfterAll_append, entryAfterAll, entryAfter_of_not_touches (silent.not_touches key),
    silent.elapse, Nat.add_zero, entryAfterAll_append]

theorem reads_without_silent {front rest : List Operation} (silent : op.IsSilent)
    (ran : State.initial.run (front ++ op :: rest) = some s) :
    ∃ t, State.initial.run (front ++ rest) = some t ∧ ∀ key, t.read key = s.read key := by
  have inTime := (State.isSome_run .initial _ (by decide)).mp (Option.isSome_of_eq_some ran)
  have carried := (State.isSome_run .initial _ (by decide)).mpr (inTime_of_silent silent inTime)
  obtain ⟨t, ran'⟩ := Option.isSome_iff_exists.mp carried
  have follows := Follows.initial.run ran
  have now : t.now = s.now := by
    rw [State.now_of_run ran, State.now_of_run ran', elapsed_of_silent silent]
  have same : (fun key => entryAfterAll key 0 none (front ++ op :: rest)) =
      fun key => entryAfterAll key 0 none (front ++ rest) :=
    funext fun key => entryAfterAll_of_silent silent key
  exact ⟨t, ran', (Follows.initial.run ran').read_congr (same ▸ follows) now⟩

def State.Overdue (s : State) (key : String) : Prop :=
  ∃ entry deadline, s.store.stored? key = some entry ∧ entry.expiresAt = some deadline ∧ deadline ≤ s.now

def State.Alive (s : State) (key : String) : Prop :=
  ∃ entry, s.store.stored? key = some entry ∧ ∀ deadline, entry.expiresAt = some deadline → s.now < deadline

/-- A purge removes the entries whose time is over and no others. It tells their number, and the size of the
store is then the number of entries whose time is not over. -/
def State.PurgesExactly (s : State) : Prop :=
  ∃ gone kept : List String, gone.Nodup ∧ kept.Nodup ∧ (∀ key, key ∈ gone ↔ s.Overdue key) ∧
    (∀ key, key ∈ kept ↔ s.Alive key) ∧
    (∀ key, (s.store.purge s.now).1.stored? key = if key ∈ gone then none else s.store.stored? key) ∧
    (s.store.purge s.now).2 = gone.length ∧ (s.store.purge s.now).1.size = kept.length

theorem State.overdue_iff (s : State) (key : String) :
    s.Overdue key ↔ ∃ entry, s.store.stored? key = some entry ∧ entry.isExpired s.now = true := by
  simp only [Overdue, MemoryEntry.isExpired, Option.any_eq_true, decide_eq_true_eq, exists_and_left]

theorem State.alive_iff (s : State) (key : String) :
    s.Alive key ↔ ∃ entry, s.store.stored? key = some entry ∧ (!entry.isExpired s.now) = true := by
  simp only [Alive, MemoryEntry.isExpired, Bool.not_eq_true', Option.any_eq_false, decide_eq_false_iff_not,
    Nat.not_le]

theorem Follows.purgesExactly {entries : String → Option MemoryEntry} (follows : Follows s entries) :
    s.PurgesExactly := by
  refine ⟨s.store.keysOf fun entry => entry.isExpired s.now, s.store.keysOf fun entry => !entry.isExpired s.now,
    MemoryStore.keysOf_nodup follows.distinct _, MemoryStore.keysOf_nodup follows.distinct _, fun key => ?_,
    fun key => ?_, fun key => ?_, s.store.purge_count s.now, s.store.size_purge s.now⟩
  · rw [s.overdue_iff]
    exact MemoryStore.mem_keysOf_iff follows.distinct _ key
  · rw [s.alive_iff]
    exact MemoryStore.mem_keysOf_iff follows.distinct _ key
  · rw [MemoryStore.stored?_purge follows.distinct]
    simp only [MemoryStore.mem_keysOf_iff follows.distinct]
    cases s.store.stored? key with
    | none => simp
    | some entry => cases expired : entry.isExpired s.now <;> simp [expired]

theorem State.run_append (s : State) (front rest : List Operation) :
    s.run (front ++ rest) = (s.run front).bind (·.run rest) := by
  induction front generalizing s with
  | nil => rfl
  | cons op front ih =>
    rw [List.cons_append, run, run]
    cases s.step op with
    | none => rfl
    | some next => exact ih next

theorem State.run_singleton (s : State) (op : Operation) : s.run [op] = s.step op := by
  rw [run]
  cases s.step op <;> rfl

/-- The step of a script switches no faults on, and writes through the value store. -/
def IsPlain : Scenario.Store.Step → Prop
  | .switch _ | .rawSet _ _ _ => False
  | _ => True

theorem run_of_step {s t : Scenario.Store.State} {step : Scenario.Store.Step} {reply : Scenario.Store.Reply}
    (plain : IsPlain step) (working : s.faults = .none) (stepped : s.step step = some (t, reply)) :
    t.faults = .none ∧ (∃ ops, (State.mk s.now s.store).run ops = some ⟨t.now, t.store⟩) ∧
      ∀ key, step = .get key → reply = .value ((State.mk s.now s.store).read key) := by
  obtain ⟨now, store, faults, janitors, readErrors, writeErrors⟩ := s
  cases working
  cases step with
  | get key =>
    cases stepped
    exact ⟨rfl, ⟨[.get key], rfl⟩, fun _ same => by cases same; rfl⟩
  | set key value ttl =>
    obtain ⟨next, written, told⟩ := Option.map_eq_some_iff.mp stepped
    obtain ⟨store', stored, rfl⟩ := Option.map_eq_some_iff.mp written
    cases told
    refine ⟨rfl, ⟨[.set key value ttl], ?_⟩, fun _ => nofun⟩
    rw [State.run_singleton, State.step, stored]
    rfl
  | rawGet key =>
    cases stepped
    exact ⟨rfl, ⟨[.get key], rfl⟩, fun _ => nofun⟩
  | delete key =>
    cases stepped
    exact ⟨rfl, ⟨[.delete key], rfl⟩, fun _ => nofun⟩
  | purge =>
    cases stepped
    exact ⟨rfl, ⟨[.purge], rfl⟩, fun _ => nofun⟩
  | advance d =>
    obtain ⟨later, reached, told⟩ := Option.map_eq_some_iff.mp stepped
    cases told
    have moved : (State.mk now store).step (.advance d) = some ⟨later, store⟩ := by
      rw [State.step, reached]
      rfl
    rw [Scenario.Store.State.sweep]
    split
    · refine ⟨rfl, ⟨[.advance d, .tick], ?_⟩, fun _ => nofun⟩
      rw [State.run, moved]
      rfl
    · refine ⟨rfl, ⟨[.advance d], ?_⟩, fun _ => nofun⟩
      rw [State.run_singleton, moved]
  | healthy | rawHealth | backend | janitor _ =>
    cases stepped
    exact ⟨rfl, ⟨[], rfl⟩, fun _ => nofun⟩
  | switch _ | rawSet _ _ _ => exact plain.elim

theorem run_of_script {s t : Scenario.Store.State} {script : List Scenario.Store.Step}
    {answers : List Scenario.Store.Answer} (plain : ∀ step ∈ script, IsPlain step)
    (working : s.faults = .none) (ran : s.run script = some (answers, t)) :
    (∃ ops, (State.mk s.now s.store).run ops = some ⟨t.now, t.store⟩) ∧
      ∀ front key rest, script = front ++ .get key :: rest →
        ∃ ops met, (State.mk s.now s.store).run ops = some met ∧
          answers[front.length]?.map (·.reply) = some (.value (met.read key)) := by
  induction script generalizing s answers with
  | nil =>
    cases ran
    exact ⟨⟨[], rfl⟩, fun front _ _ same => absurd same.symm (by simp)⟩
  | cons step rest ih =>
    obtain ⟨⟨next, reply⟩, stepped, later⟩ := Option.bind_eq_some_iff.mp ran
    obtain ⟨⟨told, last⟩, onward, same⟩ := Option.bind_eq_some_iff.mp later
    cases same
    obtain ⟨working', ⟨ops, first⟩, reads⟩ := run_of_step (plain step List.mem_cons_self) working stepped
    obtain ⟨⟨ops', second⟩, readsLater⟩ := ih
      (fun other member => plain other (List.mem_cons_of_mem step member)) working' onward
    refine ⟨⟨ops ++ ops', by rw [State.run_append, first, Option.bind_some, second]⟩, ?_⟩
    intro front key back same
    cases front with
    | nil =>
      obtain ⟨read, _⟩ := List.cons.inj same
      refine ⟨[], _, rfl, ?_⟩
      rw [reads key read]
      rfl
    | cons _ front =>
      obtain ⟨_, behind⟩ := List.cons.inj same
      obtain ⟨ops', met, third, answered⟩ := readsLater front key back behind
      exact ⟨ops ++ ops', met, by rw [State.run_append, first, Option.bind_some, third], answered⟩

/-- The store in memory is a map whose entries end at their time. Its operations are carried out exactly if the
clock reaches what they ask for. A read then answers with the last value that was written under its key, if
it is not empty, was not deleted since and its time is not over, and otherwise with a miss. A read, a purge
or a turn of the janitor can be left out without a change of any later answer, and a purge removes exactly
what is overdue. A script without faults is such a run, and its reads are answered as the map answers. -/
theorem store_is_timed_map (ops : List Operation) :
    (InTime 0 ops ↔ ∃ s, State.initial.run ops = some s) ∧
    (∀ s, State.initial.run ops = some s →
      s.now = elapsed ops ∧
      (∀ key found, s.read key = some found ↔
        ∃ ttl written, Stands ops key found ttl written ∧ found ≠ [] ∧ Lasts ttl written s.now) ∧
      (∀ front op rest, ops = front ++ op :: rest → op.IsSilent →
        ∃ t, State.initial.run (front ++ rest) = some t ∧ ∀ key, t.read key = s.read key) ∧
      s.PurgesExactly) ∧
    ∀ script answers t, (∀ step ∈ script, IsPlain step) →
      Scenario.Store.State.initial.run script = some (answers, t) →
      (∃ done, State.initial.run done = some ⟨t.now, t.store⟩) ∧
        ∀ front key rest, script = front ++ .get key :: rest →
          ∃ done met, State.initial.run done = some met ∧
            answers[front.length]?.map (·.reply) = some (.value (met.read key)) := by
  refine ⟨?_, fun s ran => ?_, fun script answers t plain => run_of_script plain rfl⟩
  · rw [← Option.isSome_iff_exists]
    exact (State.isSome_run .initial ops (by decide)).symm
  · have follows := Follows.initial.run ran
    refine ⟨?_, follows.read_eq_some_iff, ?_, follows.purgesExactly⟩
    · rw [State.now_of_run ran]
      exact Nat.zero_add _
    · rintro front op rest rfl silent
      exact reads_without_silent silent ran

def writtenAgain : List Operation :=
  [.set "k" [1] (some (.ofSeconds 1)), .advance (.ofSeconds 1), .get "k", .set "k" [2] (some .zero), .tick,
    .advance (.ofSeconds 1), .purge]

theorem store_is_timed_map_written_again :
    ∃ s, State.initial.run writtenAgain = some s ∧ s.now = 2 * 10 ^ 9 ∧ s.read "k" = some [2] := by
  obtain ⟨carried, told, _⟩ := store_is_timed_map writtenAgain
  obtain ⟨s, ran⟩ := carried.mp (by simp only [writtenAgain, InTime]; decide)
  obtain ⟨now, reads, _⟩ := told s ran
  refine ⟨s, ran, now.trans (by decide), (reads "k" [2]).mpr ⟨some .zero, 10 ^ 9, ?_, by decide, ?_⟩⟩
  · refine ⟨writtenAgain.take 3, writtenAgain.drop 4, rfl, by decide, ?_⟩
    simp [writtenAgain, Operation.Touches]
  · rintro d same
    cases same
    exact .inl rfl

end PlaceGateway.TimedMap
