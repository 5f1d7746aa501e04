import Mathlib.Algebra.GroupWithZero.Nat
import PlaceGateway.Proofs.MemoryStore
import PlaceGateway.Redis.Store
/-! The two backends of the cache side by side: a store in memory, where entries stay until an operation
touches them, and a server whose entries are gone when their time is over. -/

namespace PlaceGateway.Backend

open Redis (Command Server)

inductive Operation where
  | get (key : String)
  | set (key : String) (value : Bytes) (ttl : Option Duration)
  | delete (key : String)
  | advance (d : Duration)
  deriving DecidableEq, Repr

namespace Operation

def IsWhole : Operation → Prop
  | set _ _ (some d) => ∃ n, 0 < n ∧ n < 2 ^ 64 ∧ d.nanos = n * 10 ^ 6
  | _ => True

def reach : Operation → Nat
  | set _ _ ttl => ttl.elim 0 Duration.nanos
  | advance d => d.nanos
  | get _ | delete _ => 0

def elapse : Operation → Nat
  | advance d => d.nanos
  | get _ | set _ _ _ | delete _ => 0

end Operation

/-- The clock reaches every instant that the operations compute, when it starts as given. -/
def InTime (now : Instant) (ops : List Operation) : Prop :=
  ∀ front op rest, ops = front ++ op :: rest →
    now + (front.map Operation.elapse).sum + op.reach < Instant.limit

inductive Answer where
  | value (value : Option Bytes)
  | existed (flag : Bool)
  | nothing
  deriving DecidableEq, Repr

structure Local where
  now : Instant
  store : MemoryStore
  deriving DecidableEq, Repr

namespace Local

def initial : Local := ⟨0, .empty⟩

def step (s : Local) : Operation → Option (Local × Answer)
  | .get key =>
    let (store, value) := s.store.get s.now key
    some ({ s with store }, .value value)
  | .set key value ttl => (s.store.set? s.now key value ttl).map fun store => ({ s with store }, .nothing)
  | .delete key =>
    let (store, existed) := s.store.delete key
    some ({ s with store }, .existed existed)
  | .advance d => (Instant.add? s.now d).map fun now => ({ s with now }, .nothing)

def run (s : Local) : List Operation → Option (Local × List Answer)
  | [] => some (s, [])
  | op :: rest => (s.step op).bind fun next =>
    (next.1.run rest).map fun last => (last.1, next.2 :: last.2)

/-- The operation deletes an entry whose time is over and that nothing has removed. -/
def FindsStale (s : Local) : Operation → Prop
  | .delete key => ∃ entry, s.store.stored? key = some entry ∧ entry.isExpired s.now = true
  | _ => False

end Local

/-- A server with an established connection, which answers every command. -/
structure Remote where
  now : Instant
  server : Server
  deriving DecidableEq, Repr

namespace Remote

def initial : Remote := ⟨0, .empty⟩

def link (t : Remote) : Redis.Store.Link := fun command => .ok (t.server.execute t.now command).2

def after (t : Remote) (command : Command) : Remote :=
  { t with server := (t.server.execute t.now command).1 }

def step (t : Remote) : Operation → Remote × Except CacheError Answer
  | .get key => (t.after (.get key), (Redis.Store.get t.link key).map .value)
  | .set key value ttl =>
    (t.after (.set key value (ttl.map Redis.lifetimeMillis)),
      (Redis.Store.set t.link key value ttl).map fun _ => .nothing)
  | .delete key => (t.after (.delete key), (Redis.Store.delete t.link key).map .existed)
  | .advance d => ({ t with now := t.now + d.nanos }, .ok .nothing)

def run (t : Remote) : List Operation → Remote × List (Except CacheError Answer)
  | [] => (t, [])
  | op :: rest =>
    let (t, answer) := t.step op
    let (t, answers) := t.run rest
    (t, answer :: answers)

end Remote

def entryOf (entry : MemoryEntry) : Redis.Entry := ⟨entry.value, entry.expiresAt⟩

/-- The server has the entries in memory whose time is not over, and no others. -/
structure Mirrors (s : Local) (t : Remote) : Prop where
  now : t.now = s.now
  live : ∀ key, t.server.live? t.now key =
    ((s.store.stored? key).map entryOf).filter (·.isLive s.now)

variable {s s' : Local} {t : Remote} {op : Operation} {ops : List Operation} {answer : Answer}

theorem isLive_entryOf (entry : MemoryEntry) (now : Instant) :
    (entryOf entry).isLive now = !entry.isExpired now := by
  obtain ⟨value, _ | deadline⟩ := entry
  · rfl
  · simp [Redis.Entry.isLive, MemoryEntry.isExpired, entryOf, ← decide_not]

theorem filter_entryOf (entry : Option MemoryEntry) (now : Instant) :
    (entry.map entryOf).filter (·.isLive now) =
      (entry.filter fun entry => !entry.isExpired now).map entryOf := by
  cases entry with
  | none => rfl
  | some entry =>
    rw [Option.map_some, Option.filter_some, Option.filter_some, isLive_entryOf]
    split <;> rfl

theorem isLive_of_le {now now' : Instant} (later : now ≤ now') {entry : Redis.Entry}
    (lives : entry.isLive now' = true) : entry.isLive now = true := by
  obtain ⟨value, _ | deadline⟩ := entry
  · rfl
  · simp only [Redis.Entry.isLive, Option.all_some, decide_eq_true_eq] at lives ⊢
    exact Nat.lt_of_le_of_lt later lives

theorem filter_isLive_of_le {now now' : Instant} (later : now ≤ now') (entry : Option Redis.Entry) :
    (entry.filter (·.isLive now)).filter (·.isLive now') = entry.filter (·.isLive now') :=
  filter_filter_of_imp (fun _ => isLive_of_le later) entry

theorem lifetimeMillis_of_whole {n : Nat} {d : Duration} (positive : 0 < n) (small : n < 2 ^ 64)
    (whole : d.nanos = n * 10 ^ 6) : Redis.lifetimeMillis d * 10 ^ 6 = d.nanos := by
  have millis : d.millis = n := by rw [Duration.millis, whole, Nat.mul_div_cancel _ (by decide)]
  rw [Redis.lifetimeMillis, millis, Nat.min_eq_left (by omega), Nat.max_eq_right positive, whole]

theorem mirrors_initial : Mirrors .initial .initial := ⟨rfl, fun _ => rfl⟩

namespace Mirrors

theorem found (mirrors : Mirrors s t) (key : String) :
    (t.server.live? t.now key).map Redis.Entry.value = (s.store.get s.now key).2 := by
  rw [mirrors.live, filter_entryOf, MemoryStore.get_snd, Option.map_map]
  rfl

theorem get (mirrors : Mirrors s t) (key : String) :
    Mirrors { s with store := (s.store.get s.now key).1 } (t.after (.get key)) where
  now := mirrors.now
  live other := by
    have same := (MemoryStore.get_drops s.store s.now key).live other
    rw [filter_entryOf, same, ← filter_entryOf]
    exact mirrors.live other

theorem set (mirrors : Mirrors s t) {key : String} {value : Bytes} {ttl : Option Duration}
    {store : MemoryStore} (whole : (Operation.set key value ttl).IsWhole)
    (written : s.store.set? s.now key value ttl = some store) :
    Mirrors { s with store } (t.after (.set key value (ttl.map Redis.lifetimeMillis))) where
  now := mirrors.now
  live other := by
    have deadline : (ttl.map Redis.lifetimeMillis).map (fun n => t.now + n * 10 ^ 6) =
        ttl.map fun d => s.now + d.nanos := by
      cases ttl with
      | none => rfl
      | some d =>
        obtain ⟨n, positive, small, millis⟩ := whole
        rw [Option.map_some, Option.map_some, Option.map_some,
          lifetimeMillis_of_whole positive small millis, mirrors.now]
    have before := mirrors.live other
    rw [mirrors.now] at before
    rw [MemoryStore.stored?_of_set? written, Remote.after, mirrors.now]
    simp only [Server.execute, Server.live?, Table.get?_set, ← mirrors.now, deadline]
    rw [mirrors.now]
    by_cases same : other = key
    · rw [if_pos same, if_pos same]
      rfl
    · rw [if_neg same, if_neg same]
      exact before

theorem delete (mirrors : Mirrors s t) (key : String) :
    Mirrors { s with store := (s.store.delete key).1 } (t.after (.delete key)) where
  now := mirrors.now
  live other := by
    have before := mirrors.live other
    rw [MemoryStore.stored?_delete]
    simp only [Remote.after, Server.execute, Server.live?, Table.get?_erase]
    by_cases same : other = key
    · rw [if_pos same, if_pos same]
      rfl
    · rw [if_neg same, if_neg same]
      exact before

theorem advance (mirrors : Mirrors s t) {d : Duration} {now : Instant}
    (reached : Instant.add? s.now d = some now) :
    Mirrors { s with now } { t with now := t.now + d.nanos } := by
  obtain ⟨_, rfl⟩ := Instant.add?_eq_some_iff.mp reached
  refine ⟨congrArg (· + d.nanos) mirrors.now, fun key => ?_⟩
  have later : s.now ≤ s.now + d.nanos := Nat.le_add_right _ _
  have before := mirrors.live key
  rw [mirrors.now] at before ⊢
  rw [← filter_isLive_of_le later, ← before, Server.live?, Server.live?, filter_isLive_of_le later]

/-- The server has nothing to delete exactly if memory has nothing either, or an entry whose time is over. -/
theorem exists_iff (mirrors : Mirrors s t) (key : String) :
    (t.server.live? t.now key).isSome = true ↔
      (s.store.delete key).2 = true ∧ ¬ s.FindsStale (.delete key) := by
  have there : (s.store.delete key).2 = (s.store.stored? key).isSome := rfl
  rw [mirrors.live, filter_entryOf, Option.isSome_map, there, Local.FindsStale]
  cases s.store.stored? key with
  | none => simp
  | some entry => cases expired : entry.isExpired s.now <;> simp [expired, Option.filter_some]

theorem step (mirrors : Mirrors s t) (whole : op.IsWhole) (stepped : s.step op = some (s', answer)) :
    Mirrors s' (t.step op).1 ∧ (¬ s.FindsStale op → (t.step op).2 = .ok answer) ∧
      (s.FindsStale op → answer = .existed true ∧ (t.step op).2 = .ok (.existed false)) := by
  cases op with
  | get key =>
    cases stepped
    refine ⟨mirrors.get key, fun _ => ?_, False.elim⟩
    exact congrArg (fun value => Except.ok (Answer.value value)) (mirrors.found key)
  | set key value ttl =>
    obtain ⟨store, written, told⟩ := Option.map_eq_some_iff.mp stepped
    cases told
    exact ⟨mirrors.set whole written, fun _ => rfl, False.elim⟩
  | advance d =>
    obtain ⟨now, reached, told⟩ := Option.map_eq_some_iff.mp stepped
    cases told
    exact ⟨mirrors.advance reached, fun _ => rfl, False.elim⟩
  -- A deletion in memory still finds an entry whose time is over, and one at the server does not.
  | delete key =>
    cases stepped
    have told : (t.step (.delete key)).2 = .ok (.existed (t.server.live? t.now key).isSome) := by
      cases found : (t.server.live? t.now key).isSome <;>
        simp [Remote.step, Redis.Store.delete, Remote.link, Server.execute, found, Except.map]
    have same := mirrors.exists_iff key
    refine ⟨mirrors.delete key, fun fresh => ?_, fun stale => ?_⟩
    · rw [told, Bool.eq_iff_iff.mpr (same.trans (and_iff_left fresh))]
      rfl
    · have gone : (t.server.live? t.now key).isSome = false :=
        Bool.eq_false_iff.mpr fun found => (same.mp found).2 stale
      obtain ⟨entry, found, _⟩ := stale
      refine ⟨congrArg Answer.existed ?_, by rw [told, gone]⟩
      exact Option.isSome_iff_exists.mpr ⟨entry, found⟩

end Mirrors

theorem Local.run_length {answers : List Answer} (ran : s.run ops = some (s', answers)) :
    answers.length = ops.length := by
  induction ops generalizing s answers with
  | nil =>
    cases ran
    rfl
  | cons op rest ih =>
    rw [run] at ran
    obtain ⟨next, _, later⟩ := Option.bind_eq_some_iff.mp ran
    obtain ⟨last, onward, told⟩ := Option.map_eq_some_iff.mp later
    cases told
    exact congrArg Nat.succ (ih onward)

theorem Remote.run_length (t : Remote) (ops : List Operation) : (t.run ops).2.length = ops.length := by
  induction ops generalizing t with
  | nil => rfl
  | cons op rest ih => exact congrArg Nat.succ (ih _)

def Compares (s : Local) (t : Remote) (ops : List Operation) (answers : List Answer) : Prop :=
  ∀ front op rest, ops = front ++ op :: rest → ∃ before told answer,
    s.run front = some (before, told) ∧ answers[front.length]? = some answer ∧
    (¬ before.FindsStale op → (t.run ops).2[front.length]? = some (.ok answer)) ∧
    (before.FindsStale op →
      answer = .existed true ∧ (t.run ops).2[front.length]? = some (.ok (.existed false)))

theorem Mirrors.run {answers : List Answer} (mirrors : Mirrors s t) (whole : ∀ op ∈ ops, op.IsWhole)
    (ran : s.run ops = some (s', answers)) : Compares s t ops answers := by
  induction ops generalizing s t answers with
  | nil =>
    intro front op rest split
    cases front <;> cases split
  | cons first later ih =>
    rw [Local.run] at ran
    obtain ⟨⟨next, answer⟩, stepped, went⟩ := Option.bind_eq_some_iff.mp ran
    obtain ⟨⟨last, told⟩, onward, split⟩ := Option.map_eq_some_iff.mp went
    cases split
    obtain ⟨mirrors', same, differs⟩ := mirrors.step (whole first List.mem_cons_self) stepped
    have compares := ih mirrors' (fun op member => whole op (List.mem_cons_of_mem _ member)) onward
    intro front op rest split
    cases front with
    | nil =>
      cases split
      refine ⟨s, [], answer, rfl, rfl, fun fresh => congrArg some (same fresh), fun stale => ?_⟩
      exact ⟨(differs stale).1, congrArg some (differs stale).2⟩
    | cons op' front =>
      cases split
      obtain ⟨before, early, answer', ran', found, fresh, stale⟩ := compares front op rest rfl
      refine ⟨before, answer :: early, answer', ?_, found, fresh, stale⟩
      rw [Local.run, stepped, Option.bind_some, ran', Option.map_some]

theorem Local.isSome_step (s : Local) (op : Operation) (started : s.now < Instant.limit) :
    (s.step op).isSome = true ↔ s.now + op.reach < Instant.limit := by
  cases op with
  | get key => exact iff_of_true rfl started
  | delete key => exact iff_of_true rfl started
  | advance d =>
    rw [step, Option.isSome_map, Instant.add?]
    split <;> simp_all [Operation.reach]
  | set key value ttl =>
    cases ttl with
    | none => exact iff_of_true rfl started
    | some d =>
      rw [step, Option.isSome_map, MemoryStore.set?, Option.isSome_map, Instant.add?]
      split <;> simp_all [Operation.reach]

theorem Local.now_of_step (stepped : s.step op = some (s', answer)) : s'.now = s.now + op.elapse := by
  cases op with
  | get key =>
    cases stepped
    rfl
  | delete key =>
    cases stepped
    rfl
  | set key value ttl =>
    obtain ⟨store, _, told⟩ := Option.map_eq_some_iff.mp stepped
    cases told
    rfl
  | advance d =>
    obtain ⟨now, reached, told⟩ := Option.map_eq_some_iff.mp stepped
    cases told
    exact (Instant.add?_eq_some_iff.mp reached).2

theorem inTime_cons {now : Instant} {op : Operation} {rest : List Operation} :
    InTime now (op :: rest) ↔ now + op.reach < Instant.limit ∧ InTime (now + op.elapse) rest := by
  constructor
  · refine fun inTime => ⟨inTime [] op rest rfl, fun front op' later split => ?_⟩
    have bound := inTime (op :: front) op' later (by rw [split, List.cons_append])
    rwa [List.map_cons, List.sum_cons, ← Nat.add_assoc] at bound
  · rintro ⟨first, inTime⟩ front op' later split
    cases front with
    | nil =>
      cases split
      exact first
    | cons op'' front =>
      cases split
      rw [List.map_cons, List.sum_cons, ← Nat.add_assoc]
      exact inTime front op' later rfl

theorem Local.isSome_run (s : Local) (ops : List Operation) (started : s.now < Instant.limit) :
    (s.run ops).isSome = true ↔ InTime s.now ops := by
  induction ops generalizing s with
  | nil =>
    refine iff_of_true rfl fun front op rest split => ?_
    cases front <;> cases split
  | cons op rest ih =>
    rw [inTime_cons, ← isSome_step s op started, run]
    cases stepped : s.step op with
    | none => simp
    | some next =>
      have moved := now_of_step stepped
      have onward : next.1.now < Instant.limit := by
        rw [moved]
        have reached := (isSome_step s op started).mp (by rw [stepped]; rfl)
        cases op <;> simp_all [Operation.reach, Operation.elapse]
      rw [Option.bind_some, Option.isSome_map, ih next.1 onward, moved]
      simp

/-- Memory carries the operations out exactly if the clock reaches every instant that they compute. Then both
backends give the same answers exactly if no operation deletes an entry whose time is over and that no
operation has touched since; in memory such a deletion tells that there was an entry, on the server
that there was none, and in every other place, each read among them, the answers are the same. -/
theorem backends_agree_iff (whole : ∀ op ∈ ops, op.IsWhole) :
    (InTime 0 ops ↔ ∃ s answers, Local.initial.run ops = some (s, answers)) ∧
    ∀ s answers, Local.initial.run ops = some (s, answers) →
      Compares .initial .initial ops answers ∧
      ((Remote.initial.run ops).2 = answers.map .ok ↔ ∀ front op rest before told,
        ops = front ++ op :: rest → Local.initial.run front = some (before, told) →
          ¬ before.FindsStale op) := by
  refine ⟨?_, fun s answers ran => ?_⟩
  · have carried := Local.isSome_run .initial ops (by decide)
    rw [Option.isSome_iff_exists, Prod.exists] at carried
    exact carried.symm
  · have compares := mirrors_initial.run whole ran
    refine ⟨compares, fun same front op rest before told split early stale => ?_, fun fresh => ?_⟩
    · obtain ⟨before', told', answer, early', found, _, differs⟩ := compares front op rest split
      rw [early, Option.some.injEq, Prod.mk.injEq] at early'
      obtain ⟨rfl, rfl⟩ := early'
      obtain ⟨rfl, gone⟩ := differs stale
      rw [same, List.getElem?_map, found] at gone
      cases gone
    · refine List.ext_getElem? fun place => ?_
      rcases Nat.lt_or_ge place ops.length with inside | outside
      · have split : ops = ops.take place ++ ops[place] :: ops.drop (place + 1) := by simp
        obtain ⟨before, told, answer, early, found, same, _⟩ := compares _ _ _ split
        rw [List.length_take_of_le (Nat.le_of_lt inside)] at found same
        rw [same (fresh _ _ _ before told split early), List.getElem?_map, found, Option.map_some]
      · rw [List.getElem?_eq_none (by rw [Remote.run_length]; exact outside),
          List.getElem?_eq_none (by rw [List.length_map, Local.run_length ran]; exact outside)]

def readThenDeleted : List Operation :=
  [.set "k" [1] (some (.ofMillis 1)), .get "k", .advance (.ofMillis 1), .get "k", .delete "k"]

theorem backends_agree_iff_reads :
    ∃ s answers, Local.initial.run readThenDeleted = some (s, answers) ∧
      answers = [.nothing, .value (some [1]), .nothing, .value none, .existed false] ∧
      Compares .initial .initial readThenDeleted answers := by
  have whole : ∀ op ∈ readThenDeleted, op.IsWhole := by
    simp only [readThenDeleted, List.forall_mem_cons, List.not_mem_nil, false_implies, implies_true,
      and_true]
    exact ⟨⟨1, by decide, by decide, rfl⟩, trivial, trivial, trivial, trivial⟩
  obtain ⟨_, compares⟩ := backends_agree_iff whole
  exact ⟨_, _, rfl, by decide, (compares _ _ rfl).1⟩

/-- An entry that has expired is deleted: memory tells that it was there, and the server that it was
not. -/
theorem stale_entry_is_deleted :
    ¬ ∀ ops : List Operation, (∀ op ∈ ops, op.IsWhole) → InTime 0 ops →
      ∀ s answers, Local.initial.run ops = some (s, answers) →
        (Remote.initial.run ops).2 = answers.map .ok := by
  intro claim
  have same := claim [.set "k" [1] (some (.ofMillis 1)), .advance (.ofMillis 1), .delete "k"]
    (by
      simp only [List.forall_mem_cons, List.not_mem_nil, false_implies, implies_true, and_true]
      exact ⟨⟨1, by decide, by decide, rfl⟩, trivial, trivial⟩)
    ((Local.isSome_run .initial _ (by decide)).mp (by decide)) _ _ rfl
  revert same
  decide

end PlaceGateway.Backend
