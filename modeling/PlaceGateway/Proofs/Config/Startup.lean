import PlaceGateway.LogFilter
import PlaceGateway.Proofs.Config.Problems
import PlaceGateway.Proofs.SocketAddress
import PlaceGateway.Provider.Exchange
import PlaceGateway.Scenario.Store
/-! What comes up under an accepted configuration. The provider can always be reached. The host to listen
at, the log filter and the interval between two purges are not looked at before. -/

namespace PlaceGateway

namespace Scenario.Store

variable {s s' last : State} {step : Step} {steps : List Step} {reply : Reply} {answers : List Answer}
  {every : Duration} {i : Nat}

def Step.interval? : Step → Option Duration
  | janitor every => some every
  | _ => none

def State.intervals (s : State) : List Duration := s.janitors.map Janitor.every

theorem State.intervals_sweep (s : State) : s.sweep.intervals = s.intervals := by
  rw [sweep]
  split
  · rw [intervals, intervals, List.map_map]
    refine List.map_congr_left fun j _ => ?_
    simp only [Function.comp_apply]
    split <;> rfl
  · rfl

theorem State.intervals_step (stepped : s.step step = some (s', reply)) :
    s'.intervals = s.intervals ++ step.interval?.toList := by
  cases step with
  | get key =>
    simp only [State.step] at stepped
    split at stepped <;> cases stepped <;> exact (List.append_nil _).symm
  | set key value ttl =>
    simp only [State.step, set?, Option.map_map] at stepped
    split at stepped
    · cases stepped
      exact (List.append_nil _).symm
    · cases stepped
      exact (List.append_nil _).symm
    · obtain ⟨store, _, same⟩ := Option.map_eq_some_iff.mp stepped
      cases same
      exact (List.append_nil _).symm
  | rawSet key value ttl =>
    simp only [State.step, set?, Option.map_map] at stepped
    obtain ⟨store, _, same⟩ := Option.map_eq_some_iff.mp stepped
    cases same
    exact (List.append_nil _).symm
  | advance d =>
    obtain ⟨now, _, same⟩ := Option.map_eq_some_iff.mp stepped
    cases same
    rw [intervals_sweep]
    exact (List.append_nil _).symm
  | janitor every =>
    cases stepped
    exact List.map_append
  | rawGet | delete | purge | healthy | rawHealth | backend | switch =>
    cases stepped
    exact (List.append_nil _).symm

theorem State.cons_of_run (run : s.run (step :: steps) = some (answers, last)) :
    ∃ s' reply rest, s.step step = some (s', reply) ∧ s'.run steps = some (rest, last) ∧
      answers = s'.answer reply :: rest := by
  obtain ⟨⟨s', reply⟩, stepped, run⟩ := Option.bind_eq_some_iff.mp run
  obtain ⟨⟨rest, _⟩, run, same⟩ := Option.bind_eq_some_iff.mp run
  cases same
  exact ⟨s', reply, rest, stepped, run, rfl⟩

theorem State.finished_answer (present : s.intervals[i]? = some every) (reply : Reply) :
    (s.answer reply).finished[i]? = some every.isZero := by
  rw [intervals, List.getElem?_map] at present
  obtain ⟨j, found, same⟩ := Option.map_eq_some_iff.mp present
  rw [answer, List.getElem?_map, found, Option.map_some, Janitor.isFinished, same]

theorem State.finished_of_run (run : s.run steps = some (answers, last))
    (present : s.intervals[i]? = some every) :
    ∀ answer ∈ answers, answer.finished[i]? = some every.isZero := by
  induction steps generalizing s answers with
  | nil =>
    cases run
    exact nofun
  | cons step steps ih =>
    obtain ⟨s', reply, rest, stepped, ran, rfl⟩ := cons_of_run run
    have stays : s'.intervals[i]? = some every := by
      rw [intervals_step stepped, List.getElem?_append_left (List.getElem?_eq_some_iff.mp present).1, present]
    exact List.forall_mem_cons.mpr ⟨finished_answer stays reply, ih ran stays⟩

/-- Whenever a janitor with the given interval is started, it is never over. -/
def KeepsSweeping (every : Duration) : Prop :=
  ∀ (s : State) steps answers last, s.run (.janitor every :: steps) = some (answers, last) →
    ∀ answer ∈ answers, answer.finished[s.janitors.length]? = some false

theorem State.finished_of_janitor (run : s.run (.janitor every :: steps) = some (answers, last)) :
    ∀ answer ∈ answers, answer.finished[s.janitors.length]? = some every.isZero := by
  obtain ⟨s', reply, rest, stepped, ran, rfl⟩ := cons_of_run run
  have placed : s'.intervals[s.janitors.length]? = some every := by
    have length : s.intervals.length = s.janitors.length := List.length_map _
    rw [intervals_step stepped, ← length]
    exact List.getElem?_concat_length
  exact List.forall_mem_cons.mpr ⟨finished_answer placed reply, finished_of_run ran placed⟩

theorem keepsSweeping_iff : KeepsSweeping every ↔ 0 < every.nanos := by
  rw [← Duration.isZero_eq_false_iff]
  constructor
  · intro sweeps
    exact Option.some.inj (sweeps .initial [] _ _ rfl _ List.mem_cons_self)
  · intro nonzero s steps answers last run
    rw [← nonzero]
    exact State.finished_of_janitor run

end Scenario.Store

namespace LogFilter

def directives (text : String) : List (List Char) := (text.toList.splitOnP (· == ',')).filter (· ≠ [])

theorem forM_eq_ok_iff {α ε : Type} {f : α → Except ε Unit} {xs : List α} :
    xs.forM f = .ok () ↔ ∀ x ∈ xs, f x = .ok () := by
  induction xs with
  | nil => exact ⟨fun _ => nofun, fun _ => rfl⟩
  | cons x xs ih =>
    rw [List.forall_mem_cons, ← ih]
    change (f x >>= fun _ => xs.forM f) = .ok () ↔ _
    cases f x with
    | error e => exact ⟨nofun, fun both => nomatch both.1⟩
    | ok _ => exact ⟨fun rest => ⟨rfl, rest⟩, fun both => both.2⟩

theorem build_none_eq_ok_iff {compile : String → Except String Unit} {text : String} :
    build compile none text = .ok () ↔ ∀ directive ∈ directives text, checkDirective compile directive = .ok () := by
  rw [directives, ← forM_eq_ok_iff, build]
  change (check compile text).mapError _ = .ok () ↔ check compile text = .ok ()
  cases check compile text with
  | error e => exact ⟨nofun, nofun⟩
  | ok _ => exact ⟨fun _ => rfl, fun _ => rfl⟩

end LogFilter

namespace Config

variable {c : Config} {compile : String → Except String Unit}

/-- All that comes up under a configuration while the environment has no log filter. -/
structure Starts (c : Config) (compile : String → Except String Unit) : Prop where
  listens : ∃ address, c.socketAddress = .ok address
  reaches : ∃ access, Provider.Access.ofConfig c.provider = .ok access
  logs : LogFilter.build compile none c.observability.logLevel = .ok ()
  sweeps : c.cache.backend = .memory → Scenario.Store.KeepsSweeping c.cache.cleanupInterval

theorem listens_iff : (∃ address, c.socketAddress = .ok address) ↔
    (SocketAddress.host? c.server.bindAddress.toList).isSome = true := by
  rw [socketAddress, ServerConfig.socketAddress?, SocketAddress.ofText?_append c.server.port.toNat_lt]
  cases SocketAddress.host? c.server.bindAddress.toList with
  | none => exact ⟨nofun, nofun⟩
  | some address => exact ⟨fun _ => rfl, fun _ => ⟨address c.server.port.toNat, rfl⟩⟩

theorem reaches_of_validate (accepted : c.validate = .ok ()) :
    ∃ access, Provider.Access.ofConfig c.provider = .ok access := by
  obtain ⟨url, read⟩ := (validate_eq_ok_iff.mp accepted).baseUrl
  rw [Provider.Access.ofConfig, read]
  exact ⟨_, rfl⟩

/-- An accepted configuration reaches the provider. The rest of it comes up exactly if the address to listen
at is a host, whatever the port, every directive of the log filter is one, and memory, where it is the
backend, has an interval between two purges. -/
theorem accepted_starts_iff (accepted : c.validate = .ok ()) :
    (∃ access, Provider.Access.ofConfig c.provider = .ok access) ∧
    (c.Starts compile ↔ (SocketAddress.host? c.server.bindAddress.toList).isSome = true ∧
      (∀ directive ∈ LogFilter.directives c.observability.logLevel,
        LogFilter.checkDirective compile directive = .ok ()) ∧
      (c.cache.backend = .memory → 0 < c.cache.cleanupInterval.nanos)) := by
  have reaches := reaches_of_validate accepted
  refine ⟨reaches, ?_⟩
  rw [← listens_iff, ← LogFilter.build_none_eq_ok_iff, ← Scenario.Store.keepsSweeping_iff]
  constructor
  · intro starts
    exact ⟨starts.listens, starts.logs, starts.sweeps⟩
  · rintro ⟨listens, logs, sweeps⟩
    exact ⟨listens, reaches, logs, sweeps⟩

def listening (bindAddress logLevel : String) (cleanupInterval : Duration) : Config :=
  { server := { bindAddress }, cache := { backend := .memory, cleanupInterval }, provider := { apiKey := "key" },
    observability := { logLevel } }

def compileFlag (value : String) : Except String Unit :=
  if value = "true" ∨ value = "false" then .ok () else .error "no truth value"

theorem accepted_starts_on_loopback :
    (listening "[::1]" "info,places_proxy[load\x7bhit=true\x7d]=debug" (.ofSeconds 60)).Starts compileFlag :=
  (accepted_starts_iff (by decide +kernel)).2.mpr ⟨by decide +kernel, by decide +kernel, by decide +kernel⟩

def environment (name value : String) : String → Option String :=
  fun asked => [("PLACES_API_KEY", "key"), (name, value)].lookup asked

def sweepless : FileContent := .bytes "cache: \x7bcleanup_interval: 0s\x7d".toUTF8.toList

/-- An IPv6 address without brackets, a level that is none, and an interval of nothing are all accepted. -/
theorem accepted_fails_to_start :
    (∃ c, load none (environment "PLACES_SERVER_BIND_ADDRESS" "::1") = .ok c ∧
      c.socketAddress = .error (.configuration "Invalid bind address: invalid socket address syntax")) ∧
    (∃ c, load none (environment "PLACES_LOG_LEVEL" "places_proxy=loud") = .ok c ∧
      ∀ compile, LogFilter.build compile none c.observability.logLevel ≠ .ok ()) ∧
    ∃ c, load (some sweepless) (environment "PLACES_CACHE_BACKEND" "memory") = .ok c ∧
      c.cache.backend = .memory ∧ ¬ Scenario.Store.KeepsSweeping c.cache.cleanupInterval := by
  let defaults : Config := { provider := { apiKey := "key" } }
  refine ⟨⟨{ defaults with server := { bindAddress := "::1" } }, by decide +kernel, by decide +kernel⟩,
    ⟨{ defaults with observability := { logLevel := "places_proxy=loud" } }, by decide +kernel, ?_⟩,
    ⟨{ defaults with cache := { backend := .memory, cleanupInterval := .zero } }, by decide +kernel, rfl, ?_⟩⟩
  · intro compile built
    have loud : LogFilter.check compile "places_proxy=loud" = .error .level := by rfl
    rw [LogFilter.build, loud] at built
    cases built
  · rw [Scenario.Store.keepsSweeping_iff]
    decide

end Config

end PlaceGateway
