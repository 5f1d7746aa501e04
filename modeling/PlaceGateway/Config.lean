import PlaceGateway.DurationText
import PlaceGateway.Json.Value
import PlaceGateway.SocketAddress
/-! The configuration of the gateway, and what it is when nothing is configured. -/

namespace PlaceGateway

structure ServerConfig where
  bindAddress : String := "0.0.0.0"
  port : UInt16 := 8080
  requestTimeout : Duration := .ofSeconds 15
  deriving DecidableEq, Repr

inductive CacheBackend where
  | redis
  | memory
  deriving DecidableEq, Repr

structure RedisConfig where
  url : String := "redis://127.0.0.1:6379"
  username : Option String := none
  password : Option String := none
  connectionTimeout : Duration := .ofSeconds 5
  operationTimeout : Duration := .ofMillis 500
  reconnectInterval : Duration := .ofSeconds 5
  deriving DecidableEq, Repr

structure CacheConfig where
  backend : CacheBackend := .redis
  keyPrefix : String := "gplaces:v1:"
  ttl : Option Duration := some (.ofSeconds 86400)
  cleanupInterval : Duration := .ofSeconds 60
  redis : RedisConfig := {}
  deriving DecidableEq, Repr

structure ProviderConfig where
  baseUrl : String := "https://places.googleapis.com"
  apiKey : String := ""
  timeout : Duration := .ofSeconds 10
  deriving DecidableEq, Repr

inductive LogFormat where
  | json
  | pretty
  deriving DecidableEq, Repr

structure ObservabilityConfig where
  logLevel : String := "places_proxy=info"
  logFormat : LogFormat := .json
  metricsEnabled : Bool := true
  metricsAddress : String := "0.0.0.0:9090"
  deriving DecidableEq, Repr

structure Config where
  server : ServerConfig := {}
  cache : CacheConfig := {}
  provider : ProviderConfig := {}
  observability : ObservabilityConfig := {}
  deriving DecidableEq, Repr

def CacheBackend.name : CacheBackend → String
  | redis => "redis"
  | memory => "memory"

def CacheBackend.ofName? (name : String) : Option CacheBackend :=
  [redis, memory].find? (·.name == name)

def LogFormat.name : LogFormat → String
  | json => "json"
  | pretty => "pretty"

def LogFormat.ofName? (name : String) : Option LogFormat := [json, pretty].find? (·.name == name)

namespace ServerConfig

def json (c : ServerConfig) : Json :=
  .record [("bind_address", .text c.bindAddress), ("port", .integer c.port.toNat),
    ("request_timeout", .text c.requestTimeout.text)]

def socketAddress? (c : ServerConfig) : Option SocketAddress :=
  SocketAddress.ofText? (c.bindAddress ++ ":" ++ toString c.port.toNat)

end ServerConfig

def RedisConfig.json (c : RedisConfig) : Json :=
  .record [("url", .text c.url), ("username", (c.username.map .text).getD .null),
    ("password", (c.password.map .text).getD .null),
    ("connection_timeout", .text c.connectionTimeout.text),
    ("operation_timeout", .text c.operationTimeout.text),
    ("reconnect_interval", .text c.reconnectInterval.text)]

/-- A lifetime is written only when there is one. -/
def CacheConfig.json (c : CacheConfig) : Json :=
  .record ([("backend", .text c.backend.name), ("key_prefix", .text c.keyPrefix)] ++
    (c.ttl.map fun ttl => ("ttl", .text ttl.text)).toList ++
    [("cleanup_interval", .text c.cleanupInterval.text), ("redis", c.redis.json)])

def ProviderConfig.json (c : ProviderConfig) : Json :=
  .record [("base_url", .text c.baseUrl), ("api_key", .text c.apiKey), ("timeout", .text c.timeout.text)]

def ObservabilityConfig.json (c : ObservabilityConfig) : Json :=
  .record [("log_level", .text c.logLevel), ("log_format", .text c.logFormat.name),
    ("metrics_enabled", .flag c.metricsEnabled), ("metrics_address", .text c.metricsAddress)]

def Config.json (c : Config) : Json :=
  .record [("server", c.server.json), ("cache", c.cache.json), ("upstream", c.provider.json),
    ("observability", c.observability.json)]

end PlaceGateway
