import PlaceGateway.Proofs.Fetch.History
/-! A loader only goes forward. One that is answered by its own look at the cache calls no fetch function and writes
nothing. -/

namespace PlaceGateway.Fetch

open Flight (CallerId Outcome)

def LoaderPhase.stage : LoaderPhase → Nat
  | spawned => 1
  | missed => 2
  | loading => 3
  | writing _ => 4
  | done => 5

def Loads.stage (l : Loads) (e : CallerId) : Nat := (l.loaders.get? e).elim 0 fun loader => loader.phase.stage

/-- The loader of the execution calls its fetch function, gets what that came to, or writes it. -/
def Event.isWork (e : CallerId) : Event → Bool
  | start other | finish other _ | write other _ => other = e
  | _ => false

variable {ttl : Option Duration} {Allowed : Event → Prop} {Asks : String → PayloadKind → Prop} {trace : List Event}
  {event : Event} {e key : CallerId} {loader : Loader} {p : Payload} {read : Read} {l l' : Loads} {s s₀ s₁ : State}

namespace Loads

theorem stage_of_some (present : l.loaders.get? e = some loader) : l.stage e = loader.phase.stage := by
  rw [stage, present, Option.elim_some]

theorem stage_le_set (loader : Loader) (further : l.stage e ≤ loader.phase.stage)
    (same : l'.loaders = l.loaders.set e loader) (other : CallerId) : l.stage other ≤ l'.stage other := by
  by_cases own : other = e
  · subst own
    have after : l'.loaders.get? other = some loader := by simp [same]
    rwa [stage_of_some after]
  · apply Nat.le_of_eq
    rw [stage, stage, same, Table.get?_set, if_neg own]

theorem Step.stage_le (step : Step Asks l event l') (sound : l.Sound Asks) (other : CallerId) :
    l.stage other ≤ l'.stage other := by
  have advance {e : CallerId} {kind : PayloadKind} {phase : LoaderPhase}
      (present : l.loaders.get? e = some ⟨kind, phase⟩) (next : LoaderPhase) (further : phase.stage ≤ next.stage)
      (same : l'.loaders = l.loaders.set e ⟨kind, next⟩) : l.stage other ≤ l'.stage other :=
    stage_le_set ⟨kind, next⟩ (by rwa [stage_of_some present]) same other
  cases step with
  | quiet _ _ _ _ => exact Nat.le_refl _
  | @spawn c key kind _ _ fresh =>
      refine stage_le_set (e := c) ⟨kind, .spawned⟩ ?_ rfl other
      simp [stage, sound.unattended fresh]
  | hit loader _ _ _ _ => exact advance loader .done (by decide) rfl
  | miss loader _ _ _ _ => exact advance loader .missed (by decide) rfl
  | start loader => exact advance loader .loading (by decide) rfl
  | @load e key p loader _ _ _ => exact advance loader (.writing p) (Nat.le_succ 3) rfl
  | fail loader _ _ => exact advance loader .done (by decide) rfl
  | keep loader _ _ => exact advance loader .done (Nat.le_succ 4) rfl
  | overflow loader _ _ => exact advance loader .done (Nat.le_succ 4) rfl
  | pass loader _ _ => exact advance loader .done (Nat.le_succ 4) rfl
  | release _ => exact Nat.le_refl _

theorem Step.stage_of_work (step : Step Asks l event l') (work : event.isWork e = true) :
    2 ≤ l.stage e ∧ l.stage e ≤ 4 := by
  have between {own : CallerId} {kind : PayloadKind} {phase : LoaderPhase} (acts : decide (own = e) = true)
      (present : l.loaders.get? own = some ⟨kind, phase⟩) (low : 2 ≤ phase.stage) (high : phase.stage ≤ 4) :
      2 ≤ l.stage e ∧ l.stage e ≤ 4 := by
    cases of_decide_eq_true acts
    rw [stage_of_some present]
    exact ⟨low, high⟩
  cases step with
  | quiet other _ _ _ =>
      cases event with
      | start | finish | write => cases other
      | _ => cases work
  | start loader => exact between work loader (by decide) (by decide)
  | load loader _ _ _ => exact between work loader (by simp [LoaderPhase.stage]) (Nat.le_succ 3)
  | fail loader _ _ => exact between work loader (by decide) (by decide)
  | keep loader _ _ => exact between work loader (by simp [LoaderPhase.stage]) (Nat.le_refl 4)
  | overflow loader _ _ => exact between work loader (by simp [LoaderPhase.stage]) (Nat.le_refl 4)
  | pass loader _ _ => exact between work loader (by simp [LoaderPhase.stage]) (Nat.le_refl 4)
  | _ => cases work

end Loads

theorem Reached.stage_of_worked (reached : Reached ttl Allowed trace s) (member : event ∈ trace)
    (work : event.isWork e = true) : 2 ≤ s.loads.stage e := by
  induction reached with
  | initial => cases member
  | @step trace s s' last before _ stepped ih =>
      have step := (before.moves stepped).1
      have forward := step.stage_le before.isSound.1 e
      rcases List.mem_append.mp member with early | late
      · exact Nat.le_trans (ih early) forward
      · cases List.mem_singleton.mp late
        exact Nat.le_trans (step.stage_of_work work).1 forward

theorem Reached.idle_of_done {rest : List Event} (reached : Reached ttl Allowed trace s₀)
    (allowed : ∀ event ∈ rest, Allowed event) (run : s₀.run rest = some s) (done : 5 ≤ s₀.loads.stage e)
    (member : event ∈ rest) : event.isWork e = false := by
  induction rest generalizing trace s₀ with
  | nil => cases member
  | cons first rest ih =>
      rw [State.run, Option.bind_eq_some_iff] at run
      rcases run with ⟨s₁, stepped, run⟩
      have own := allowed first List.mem_cons_self
      have step := (reached.moves stepped).1
      rcases List.mem_cons.mp member with rfl | later
      · cases work : event.isWork e with
        | false => rfl
        | true => exact absurd (Nat.le_trans done (step.stage_of_work work).2) (by decide)
      · exact ih (reached.step own stepped) (fun event member => allowed event (List.mem_cons_of_mem first member)) run
          (Nat.le_trans done (step.stage_le reached.isSound.1 e)) later

theorem State.counters_of_find {kind : PayloadKind} (found : (s.find key kind read).2 = some p) :
    (s.find key kind read).1.counters = s.counters := by
  cases read with
  | failed => cases found
  | actual => rfl
  | answered value => rfl

theorem State.stage_setLoader (s : State) (e : CallerId) (loader : Loader) (phase : LoaderPhase) :
    (s.setLoader e loader phase).loads.stage e = phase.stage := by
  simp [Loads.stage, loads, setLoader]

theorem Reached.ends_of_recheck (reached : Reached ttl Allowed trace s) (stepped : s.step (.recheck e read) = some s₁)
    (answered : s₁.Concludes e key (.ok p)) :
    s.loads.stage e = 1 ∧ s₁.loads.stage e = 5 ∧ s₁.counters = s.counters := by
  rcases State.recheck?_iff.mp stepped with ⟨⟨kind, phase⟩, execution, present, known, spawned, reread⟩
  have spawned : phase = .spawned := spawned
  subst spawned
  have first : s.loads.stage e = 1 := Loads.stage_of_some (l := s.loads) present
  refine ⟨first, ?_⟩
  cases found : (s.find execution.key kind read).2 with
  | some payload =>
      rw [found] at reread
      have counters := State.counters_of_find found
      rcases Option.map_eq_some_iff.mp reread with ⟨group, _, rfl⟩
      exact ⟨State.stage_setLoader _ e ⟨kind, .spawned⟩ .done, counters⟩
  | none =>
      rw [found] at reread
      have running := reached.isSound.1.running_at present rfl known
      cases reread
      rcases answered with ⟨phase, after, told⟩
      have same : (s.find execution.key kind read).1.flight = s.flight := by cases read <;> rfl
      have after : (s.find execution.key kind read).1.flight.group.executions.get? e = some ⟨key, phase⟩ := after
      rw [same, known, running] at after
      cases after
      cases told

theorem Reached.idle_of_recheck (reached : Reached ttl Allowed trace s)
    (happened : Happened ttl trace s₀ (.recheck e read)) (stepped : s₀.step (.recheck e read) = some s₁)
    (answered : s₁.Concludes e key (.ok p)) :
    s₁.counters = s₀.counters ∧ ∀ event ∈ trace, event.isWork e = false := by
  rcases reached.since happened with ⟨front, rest, rfl, before, run, allowed⟩
  rcases Option.bind_eq_some_iff.mp run with ⟨next, again, run⟩
  rw [stepped] at again
  cases again
  -- Work needs a stage between the one before this look and the one after it.
  rcases before.ends_of_recheck stepped answered with ⟨spawned, done, counters⟩
  refine ⟨counters, fun event member => ?_⟩
  rcases List.mem_append.mp member with early | late
  · cases work : event.isWork e with
    | false => rfl
    | true =>
        have past := before.stage_of_worked early work
        rw [spawned] at past
        cases Nat.le_of_succ_le_succ past
  · rcases List.mem_cons.mp late with rfl | later
    · rfl
    · have own := allowed _ List.mem_cons_self
      exact (before.step own stepped).idle_of_done (fun event member => allowed event (List.mem_cons_of_mem _ member))
        run (Nat.le_of_eq done.symm) later

end PlaceGateway.Fetch
