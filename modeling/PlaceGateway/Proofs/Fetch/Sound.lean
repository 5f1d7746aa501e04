import PlaceGateway.Proofs.Fetch.Loads
/-! Executions stay sound: one holder for each key, and a loader for each execution. -/

namespace PlaceGateway.Fetch.Loads

open Flight (CallerId Execution Outcome Phase)

variable {Asks : String → PayloadKind → Prop} {l l' : Loads} {event : Event} {e key : String}
  {kind : PayloadKind} {loader : LoaderPhase} {phase phase' : Phase Payload}

theorem sound_empty (now : Instant) (ttl : Option Duration) :
    Sound Asks ⟨now, .empty, ttl, .empty, .empty, .empty⟩ where
  distinct := MemoryStore.distinct_empty
  held _ _ present := by cases present
  holds _ _ _ present := by cases present
  attended _ _ _ present := by cases present
  known _ _ present := by cases present
  typed _ _ _ present := by cases present

theorem Sound.withStore (sound : l.Sound Asks) (now : Instant) {store : MemoryStore}
    (distinct : store.Distinct) : Sound Asks { l with now, store } where
  distinct := distinct
  held := sound.held
  holds := sound.holds
  attended := sound.attended
  known := sound.known
  typed := sound.typed

theorem Sound.move (sound : l.Sound Asks) (found : l.executions.get? e = some ⟨key, phase⟩)
    (unended : phase.isEnded = false) (still : phase'.isEnded = false) (asked : Asks key kind)
    (agrees : loader.isDone = !phase'.isRunning)
    (typed : ∀ p, loader = .writing p →
      p.kind = kind ∧ p.size < Payload.sizeLimit ∧ p.isEmpty = false) :
    Sound Asks { l with
      executions := l.executions.set e ⟨key, phase'⟩
      loaders := l.loaders.set e ⟨kind, loader⟩ } where
  distinct := sound.distinct
  held := (sound.keys.move found unended still).held
  holds := (sound.keys.move found unended still).holds
  attended holder other was present := by
    rcases Table.get?_set_cases present with ⟨rfl, is⟩ | ⟨apart, before⟩
    · cases is
      exact ⟨⟨kind, loader⟩, by simp, asked, agrees⟩
    · rw [Table.get?_set, if_neg apart]
      exact sound.attended holder other was before
  known holder own present := by
    rcases Table.get?_set_cases present with ⟨rfl, _⟩ | ⟨apart, before⟩
    · exact ⟨⟨key, phase'⟩, by simp⟩
    · rw [Table.get?_set, if_neg apart]
      exact sound.known holder own before
  typed holder own p present := by
    rcases Table.get?_set_cases present with ⟨rfl, is⟩ | ⟨_, before⟩
    · obtain ⟨rfl, writing⟩ := Loader.mk.inj is
      exact typed p writing
    · exact sound.typed holder own p before

theorem Sound.advance (sound : l.Sound Asks) (found : l.executions.get? e = some ⟨key, .running⟩)
    (asked : Asks key kind) (active : loader.isDone = false)
    (typed : ∀ p, loader = .writing p →
      p.kind = kind ∧ p.size < Payload.sizeLimit ∧ p.isEmpty = false) :
    Sound Asks { l with loaders := l.loaders.set e ⟨kind, loader⟩ } := by
  have still : (Phase.running : Phase Payload).isEnded = false := rfl
  have moved := sound.move found rfl still asked active typed
  rwa [Table.set_self _ _ _ found] at moved

theorem Sound.conclude (sound : l.Sound Asks) (found : l.executions.get? e = some ⟨key, .running⟩)
    (asked : Asks key kind) (o : Outcome Payload) : Sound Asks (l.conclude e key kind o) :=
  sound.move found rfl rfl asked rfl (fun _ writing => by cases writing)

theorem Sound.spawn (sound : l.Sound Asks) (asked : Asks key kind) (free : l.flights.get? key = none)
    (fresh : l.executions.get? e = none) :
    Sound Asks { l with
      flights := l.flights.set key e
      executions := l.executions.set e ⟨key, .running⟩
      loaders := l.loaders.set e ⟨kind, .spawned⟩ } where
  distinct := sound.distinct
  held := (sound.keys.spawn free fresh).held
  holds := (sound.keys.spawn free fresh).holds
  attended holder other was present := by
    rcases Table.get?_set_cases present with ⟨rfl, is⟩ | ⟨apart, before⟩
    · cases is
      exact ⟨⟨kind, .spawned⟩, by simp, asked, rfl⟩
    · rw [Table.get?_set, if_neg apart]
      exact sound.attended holder other was before
  known holder own present := by
    rcases Table.get?_set_cases present with ⟨rfl, _⟩ | ⟨apart, before⟩
    · exact ⟨⟨key, .running⟩, by simp⟩
    · rw [Table.get?_set, if_neg apart]
      exact sound.known holder own before
  typed holder own p present := by
    rcases Table.get?_set_cases present with ⟨rfl, is⟩ | ⟨_, before⟩
    · cases is
    · exact sound.typed holder own p before

theorem Sound.release (sound : l.Sound Asks) {o : Outcome Payload}
    (found : l.executions.get? e = some ⟨key, .ending o⟩) :
    Sound Asks { l with
      flights := if l.flights.get? key = some e then l.flights.erase key else l.flights
      executions := l.executions.set e ⟨key, .ended o⟩ } := by
  rw [if_pos (sound.holds e key _ found rfl)]
  exact {
    distinct := sound.distinct
    held := (sound.keys.release found).held
    holds := (sound.keys.release found).holds
    attended := fun holder other was present => by
      rcases Table.get?_set_cases present with ⟨rfl, is⟩ | ⟨_, before⟩
      · cases is
        exact sound.attended holder key (.ending o) found
      · exact sound.attended holder other was before
    known := fun holder own present => by
      by_cases same : holder = e
      · exact ⟨⟨key, .ended o⟩, by simp [same]⟩
      · simp only [Table.get?_set, if_neg same]
        exact sound.known holder own present
    typed := sound.typed }

theorem Sound.asked (sound : l.Sound Asks) (present : l.loaders.get? e = some ⟨kind, loader⟩)
    (found : l.executions.get? e = some ⟨key, phase⟩) : Asks key kind := by
  obtain ⟨own, same, asked, _⟩ := sound.attended e key phase found
  rw [present] at same
  cases same
  exact asked

theorem Step.sound (step : Step Asks l event l') (sound : l.Sound Asks) : l'.Sound Asks := by
  cases step with
  | quiet _ _ distinct _ => exact sound.withStore _ distinct
  | spawn asked free fresh => exact sound.spawn asked free fresh
  | hit loader running _ distinct _ =>
      exact (sound.withStore l.now distinct).conclude running (sound.asked loader running) _
  | miss loader running _ distinct _ =>
      exact (sound.withStore l.now distinct).advance running (sound.asked loader running) rfl
        (fun _ writing => by cases writing)
  | start loader =>
      obtain ⟨key, running, asked⟩ := sound.running loader rfl
      exact sound.advance running asked rfl (fun _ writing => by cases writing)
  | load loader running fits told =>
      refine sound.advance running (sound.asked loader running) rfl ?_
      intro p writing
      cases writing
      exact ⟨rfl, fits, told⟩
  | fail loader running _ => exact sound.conclude running (sound.asked loader running) _
  | keep loader running written =>
      exact (sound.withStore l.now (sound.distinct.set? written)).conclude running
        (sound.asked loader running) _
  | overflow loader running _ => exact sound.conclude running (sound.asked loader running) _
  | pass loader running _ => exact sound.conclude running (sound.asked loader running) _
  | release ending => exact sound.release ending

theorem keeps_set {executions : Table (Execution Payload)} (found : executions.get? e = some ⟨key, phase⟩)
    (becomes : phase.Becomes phase') {other own : String} {was : Phase Payload}
    (present : executions.get? other = some ⟨own, was⟩) :
    ∃ now, (executions.set e ⟨key, phase'⟩).get? other = some ⟨own, now⟩ ∧ was.Becomes now := by
  by_cases same : other = e
  · subst same
    rw [found] at present
    cases present
    exact ⟨phase', by simp, becomes⟩
  · exact ⟨was, by simp [same, present], .inr (.inl rfl)⟩

theorem Step.keeps (step : Step Asks l event l') (present : l.executions.get? e = some ⟨key, phase⟩) :
    ∃ phase', l'.executions.get? e = some ⟨key, phase'⟩ ∧ phase.Becomes phase' := by
  have unchanged : ∃ phase', l.executions.get? e = some ⟨key, phase'⟩ ∧ phase.Becomes phase' :=
    ⟨phase, present, .inr (.inl rfl)⟩
  cases step with
  | quiet _ _ _ _ => exact unchanged
  | @spawn c _ _ _ _ fresh =>
      have differs : e ≠ c := Table.ne_of_get? present fresh
      exact ⟨phase, by simp [differs, present], .inr (.inl rfl)⟩
  | hit _ running _ _ _ => exact keeps_set running (.inl rfl) present
  | miss _ _ _ _ _ => exact unchanged
  | start _ => exact unchanged
  | load _ _ _ _ => exact unchanged
  | fail _ running _ => exact keeps_set running (.inl rfl) present
  | keep _ running _ => exact keeps_set running (.inl rfl) present
  | overflow _ running _ => exact keeps_set running (.inl rfl) present
  | pass _ running _ => exact keeps_set running (.inl rfl) present
  | release ending => exact keeps_set ending (.inr (.inr ⟨_, rfl, rfl⟩)) present

theorem Step.stored (step : Step Asks l event l') {entry : MemoryEntry}
    (present : l'.store.stored? key = some entry) :
    l.store.stored? key = some entry ∨ ∃ e kind p, event = .write e .kept ∧
      l.loaders.get? e = some ⟨kind, .writing p⟩ ∧ l.executions.get? e = some ⟨key, .running⟩ ∧
      l'.executions.get? e = some ⟨key, .ending (.ok p)⟩ ∧ entry.value = p.encode := by
  cases step with
  | quiet _ _ _ drops => exact .inl (drops.of_some present)
  | hit _ _ _ _ drops => exact .inl (drops.of_some present)
  | miss _ _ _ _ drops => exact .inl (drops.of_some present)
  | @keep e other kind p store loader running written =>
      change store.stored? key = some entry at present
      rw [MemoryStore.stored?_of_set? written] at present
      split at present
      · rename_i same
        cases present
        subst same
        exact .inr ⟨e, kind, p, rfl, loader, running, by simp [conclude], rfl⟩
      · exact .inl present
  | _ => exact .inl present

theorem Step.starts (step : Step Asks l event l') {execution : Execution Payload}
    (present : l'.executions.get? e = some execution) (new : l.executions.get? e = none) :
    event = .enter e := by
  have unchanged (present : l.executions.get? e = some execution) : event = .enter e := by
    rw [new] at present
    cases present
  have known {other : String} {was now : Execution Payload} (found : l.executions.get? other = some was)
      (present : (l.executions.set other now).get? e = some execution) : event = .enter e := by
    rcases Table.get?_set_cases present with ⟨rfl, _⟩ | ⟨_, before⟩
    · rw [found] at new
      cases new
    · exact unchanged before
  cases step with
  | quiet _ _ _ _ => exact unchanged present
  | @spawn c _ _ _ _ _ =>
      rcases Table.get?_set_cases present with ⟨rfl, _⟩ | ⟨_, before⟩
      · rfl
      · exact unchanged before
  | hit _ running _ _ _ => exact known running present
  | miss _ _ _ _ _ => exact unchanged present
  | start _ => exact unchanged present
  | load _ _ _ _ => exact unchanged present
  | fail _ running _ => exact known running present
  | keep _ running _ => exact known running present
  | overflow _ running _ => exact known running present
  | pass _ running _ => exact known running present
  | release ending => exact known ending present

theorem Step.ttl (step : Step Asks l event l') : l'.ttl = l.ttl := by
  cases step <;> rfl

theorem Step.now_le (step : Step Asks l event l') : l.now ≤ l'.now := by
  cases step with
  | quiet _ later _ _ => exact later
  | _ => exact Nat.le_refl _

theorem Step.now_eq (step : Step Asks l event l') (loader : event.loader? = some e) : l'.now = l.now := by
  cases step with
  | quiet other _ _ _ =>
      rw [other] at loader
      cases loader
  | _ => rfl

end PlaceGateway.Fetch.Loads
