import PlaceGateway.Config.Load
/-! What a configuration is when it is accepted. -/

namespace PlaceGateway

variable {c : Config}

theorem problemIf_eq_nil_iff {condition : Bool} {problem : ConfigProblem} :
    problemIf condition problem = [] ↔ condition = false := by
  cases condition <;> simp [problemIf]

theorem Duration.isZero_eq_false_iff {d : Duration} : d.isZero = false ↔ 0 < d.nanos := by
  rw [Nat.pos_iff_ne_zero]
  simp [isZero]

/-- What an accepted cache has. Nothing is asked of the lifetime and of the interval between two purges. -/
structure CacheConfig.IsSound (c : CacheConfig) : Prop where
  keyPrefix : c.keyPrefix ≠ ""
  redisUrl : c.backend = .redis → c.redis.url ≠ ""
  operationTimeout : c.backend = .redis → 0 < c.redis.operationTimeout.nanos
  reconnectInterval : c.backend = .redis → 0 < c.redis.reconnectInterval.nanos

structure Config.IsSound (c : Config) : Prop where
  bindAddress : c.server.bindAddress ≠ ""
  requestTimeout : 0 < c.server.requestTimeout.nanos
  cache : c.cache.IsSound
  baseUrl : ∃ url, Url.ofText c.provider.baseUrl = .ok url
  apiKey : c.provider.apiKey ≠ ""
  providerTimeout : 0 < c.provider.timeout.nanos
  metricsAddress : c.observability.metricsEnabled = true → ∃ address,
    SocketAddress.ofText? c.observability.metricsAddress = some address

theorem ServerConfig.problems_eq_nil_iff {c : ServerConfig} :
    c.problems = [] ↔ c.bindAddress ≠ "" ∧ 0 < c.requestTimeout.nanos := by
  simp [problems, problemIf_eq_nil_iff, Duration.isZero_eq_false_iff]

theorem CacheConfig.problems_eq_nil_iff {c : CacheConfig} : c.problems = [] ↔ c.IsSound := by
  have parts : c.IsSound ↔ c.keyPrefix ≠ "" ∧ (c.backend = .redis → c.redis.url ≠ "" ∧
      0 < c.redis.operationTimeout.nanos ∧ 0 < c.redis.reconnectInterval.nanos) :=
    ⟨fun h => ⟨h.keyPrefix, fun redis =>
        ⟨h.redisUrl redis, h.operationTimeout redis, h.reconnectInterval redis⟩⟩,
      fun h => ⟨h.1, fun redis => (h.2 redis).1, fun redis => (h.2 redis).2.1, fun redis => (h.2 redis).2.2⟩⟩
  rw [parts, problems]
  cases c.backend <;> simp [RedisConfig.problems, problemIf_eq_nil_iff, Duration.isZero_eq_false_iff]

theorem ProviderConfig.problems_eq_nil_iff {c : ProviderConfig} :
    c.problems = [] ↔ (∃ url, Url.ofText c.baseUrl = .ok url) ∧ c.apiKey ≠ "" ∧ 0 < c.timeout.nanos := by
  rw [problems]
  cases Url.ofText c.baseUrl with
  | error e => simp
  | ok url => simp [problemIf_eq_nil_iff, Duration.isZero_eq_false_iff]

theorem ObservabilityConfig.problems_eq_nil_iff {c : ObservabilityConfig} :
    c.problems = [] ↔
      (c.metricsEnabled = true → ∃ address, SocketAddress.ofText? c.metricsAddress = some address) := by
  rw [problems, problemIf_eq_nil_iff, Bool.and_eq_false_imp]
  simp only [Option.isNone_eq_false_iff, Option.isSome_iff_exists]

theorem Config.validate_eq_ok_iff : c.validate = .ok () ↔ c.IsSound := by
  have nothing : c.validate = .ok () ↔ c.problems = [] := by
    rw [validate]
    split
    · rename_i none
      exact ⟨fun _ => none, fun _ => rfl⟩
    · rename_i some
      exact ⟨nofun, fun none => absurd none some⟩
  rw [nothing, problems]
  simp only [List.append_eq_nil_iff, ServerConfig.problems_eq_nil_iff, CacheConfig.problems_eq_nil_iff,
    ProviderConfig.problems_eq_nil_iff, ObservabilityConfig.problems_eq_nil_iff]
  constructor
  · rintro ⟨⟨⟨⟨bindAddress, requestTimeout⟩, cache⟩, baseUrl, apiKey, providerTimeout⟩, metricsAddress⟩
    exact ⟨bindAddress, requestTimeout, cache, baseUrl, apiKey, providerTimeout, metricsAddress⟩
  · intro sound
    exact ⟨⟨⟨⟨sound.bindAddress, sound.requestTimeout⟩, sound.cache⟩, sound.baseUrl, sound.apiKey,
      sound.providerTimeout⟩, sound.metricsAddress⟩

end PlaceGateway
