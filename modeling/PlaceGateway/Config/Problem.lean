import PlaceGateway.Config
import PlaceGateway.Url
/-! What is wrong with a configuration. -/

namespace PlaceGateway

inductive ConfigProblem where
  | bindAddressEmpty
  | requestTimeoutZero
  | keyPrefixEmpty
  | redisUrlEmpty
  | operationTimeoutZero
  | reconnectIntervalZero
  | baseUrl (error : UrlError)
  | apiKeyEmpty
  | providerTimeoutZero
  | metricsAddress (address : String)
  deriving DecidableEq, Repr

def ConfigProblem.message : ConfigProblem → String
  | bindAddressEmpty => "server.bind_address cannot be empty"
  | requestTimeoutZero => "server.request_timeout must be greater than 0"
  | keyPrefixEmpty => "cache.key_prefix cannot be empty"
  | redisUrlEmpty => "cache.redis.url cannot be empty"
  | operationTimeoutZero => "cache.redis.operation_timeout must be greater than 0"
  | reconnectIntervalZero => "cache.redis.reconnect_interval must be greater than 0"
  | baseUrl e => "upstream.base_url is not a valid URL: " ++ e.message
  | apiKeyEmpty => "upstream.api_key must be set (PLACES_API_KEY)"
  | providerTimeoutZero => "upstream.timeout must be greater than 0"
  | metricsAddress address => "observability.metrics_address is not a socket address: " ++ address

def problemIf (condition : Bool) (p : ConfigProblem) : List ConfigProblem := if condition then [p] else []

def ServerConfig.problems (c : ServerConfig) : List ConfigProblem :=
  problemIf c.bindAddress.isEmpty .bindAddressEmpty ++
  problemIf c.requestTimeout.isZero .requestTimeoutZero

def RedisConfig.problems (c : RedisConfig) : List ConfigProblem :=
  problemIf c.url.isEmpty .redisUrlEmpty ++
  problemIf c.operationTimeout.isZero .operationTimeoutZero ++
  problemIf c.reconnectInterval.isZero .reconnectIntervalZero

def CacheConfig.problems (c : CacheConfig) : List ConfigProblem :=
  problemIf c.keyPrefix.isEmpty .keyPrefixEmpty ++
  match c.backend with
  | .redis => c.redis.problems
  | .memory => []

def ProviderConfig.problems (c : ProviderConfig) : List ConfigProblem :=
  (match Url.ofText c.baseUrl with
    | .error e => [.baseUrl e]
    | .ok _ => []) ++
  problemIf c.apiKey.isEmpty .apiKeyEmpty ++
  problemIf c.timeout.isZero .providerTimeoutZero

def ObservabilityConfig.problems (c : ObservabilityConfig) : List ConfigProblem :=
  problemIf (c.metricsEnabled && (SocketAddress.ofText? c.metricsAddress).isNone)
    (.metricsAddress c.metricsAddress)

def Config.problems (c : Config) : List ConfigProblem :=
  c.server.problems ++ c.cache.problems ++ c.provider.problems ++ c.observability.problems

end PlaceGateway
