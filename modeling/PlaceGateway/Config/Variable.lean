import PlaceGateway.Config
import PlaceGateway.Text.Lowercase
/-! Variables of the environment that override single settings. -/

namespace PlaceGateway

inductive Variable where
  | bindAddress
  | port
  | requestTimeout
  | backend
  | keyPrefix
  | ttl
  | redisUrl
  | redisUsername
  | redisPassword
  | reconnectInterval
  | baseUrl
  | apiKey
  | providerTimeout
  | logLevel
  | logFormat
  | metricsEnabled
  | metricsAddress
  deriving DecidableEq, Repr

namespace Variable

def all : List Variable :=
  [bindAddress, port, requestTimeout, backend, keyPrefix, ttl, redisUrl, redisUsername, redisPassword,
    reconnectInterval, baseUrl, apiKey, providerTimeout, logLevel, logFormat, metricsEnabled,
    metricsAddress]

def name : Variable → String
  | bindAddress => "PLACES_SERVER_BIND_ADDRESS"
  | port => "PLACES_SERVER_PORT"
  | requestTimeout => "PLACES_SERVER_REQUEST_TIMEOUT"
  | backend => "PLACES_CACHE_BACKEND"
  | keyPrefix => "PLACES_CACHE_KEY_PREFIX"
  | ttl => "PLACES_CACHE_TTL"
  | redisUrl => "PLACES_REDIS_URL"
  | redisUsername => "PLACES_REDIS_USERNAME"
  | redisPassword => "PLACES_REDIS_PASSWORD"
  | reconnectInterval => "PLACES_REDIS_RECONNECT_INTERVAL"
  | baseUrl => "PLACES_UPSTREAM_BASE_URL"
  | apiKey => "PLACES_API_KEY"
  | providerTimeout => "PLACES_UPSTREAM_TIMEOUT"
  | logLevel => "PLACES_LOG_LEVEL"
  | logFormat => "PLACES_LOG_FORMAT"
  | metricsEnabled => "PLACES_METRICS_ENABLED"
  | metricsAddress => "PLACES_METRICS_ADDRESS"

@[reducible] def Value : Variable → Type
  | port => UInt16
  | requestTimeout | reconnectInterval | providerTimeout => Duration
  | backend => CacheBackend
  | ttl => Option Duration
  | redisUsername | redisPassword => Option String
  | logFormat => LogFormat
  | metricsEnabled => Bool
  | bindAddress | keyPrefix | redisUrl | baseUrl | apiKey | logLevel | metricsAddress => String

def get : (v : Variable) → Config → v.Value
  | bindAddress, c => c.server.bindAddress
  | port, c => c.server.port
  | requestTimeout, c => c.server.requestTimeout
  | backend, c => c.cache.backend
  | keyPrefix, c => c.cache.keyPrefix
  | ttl, c => c.cache.ttl
  | redisUrl, c => c.cache.redis.url
  | redisUsername, c => c.cache.redis.username
  | redisPassword, c => c.cache.redis.password
  | reconnectInterval, c => c.cache.redis.reconnectInterval
  | baseUrl, c => c.provider.baseUrl
  | apiKey, c => c.provider.apiKey
  | providerTimeout, c => c.provider.timeout
  | logLevel, c => c.observability.logLevel
  | logFormat, c => c.observability.logFormat
  | metricsEnabled, c => c.observability.metricsEnabled
  | metricsAddress, c => c.observability.metricsAddress

def set : (v : Variable) → v.Value → Config → Config
  | bindAddress, x, c => { c with server.bindAddress := x }
  | port, x, c => { c with server.port := x }
  | requestTimeout, x, c => { c with server.requestTimeout := x }
  | backend, x, c => { c with cache.backend := x }
  | keyPrefix, x, c => { c with cache.keyPrefix := x }
  | ttl, x, c => { c with cache.ttl := x }
  | redisUrl, x, c => { c with cache.redis.url := x }
  | redisUsername, x, c => { c with cache.redis.username := x }
  | redisPassword, x, c => { c with cache.redis.password := x }
  | reconnectInterval, x, c => { c with cache.redis.reconnectInterval := x }
  | baseUrl, x, c => { c with provider.baseUrl := x }
  | apiKey, x, c => { c with provider.apiKey := x }
  | providerTimeout, x, c => { c with provider.timeout := x }
  | logLevel, x, c => { c with observability.logLevel := x }
  | logFormat, x, c => { c with observability.logFormat := x }
  | metricsEnabled, x, c => { c with observability.metricsEnabled := x }
  | metricsAddress, x, c => { c with observability.metricsAddress := x }

theorem get_set (v : Variable) (x : v.Value) (c : Config) : v.get (v.set x c) = x := by
  cases v <;> rfl

theorem get_set_of_ne {v w : Variable} (h : w ≠ v) (x : v.Value) (c : Config) :
    w.get (v.set x c) = w.get c := by
  cases v <;> cases w <;> first | rfl | exact absurd rfl h

end Variable

inductive ValueError where
  | emptyNumber
  | digit
  | tooLarge
  | flag
  | duration (error : DurationError)
  | name (text : String)
  deriving DecidableEq, Repr

def ValueError.message : ValueError → String
  | emptyNumber => "cannot parse integer from empty string"
  | digit => "invalid digit found in string"
  | tooLarge => "number too large to fit in target type"
  | flag => "provided string was not `true` or `false`"
  | duration error => error.message
  | name text => text

namespace Variable

/-- The first character that is no digit or brings the number out of range decides. -/
def portDigits : Nat → List Char → Except ValueError Nat
  | n, [] => .ok n
  | n, c :: rest =>
    if ¬c.isDigit then .error .digit
    else
      let n := n * 10 + (c.toNat - 48)
      if n < 65536 then portDigits n rest else .error .tooLarge

/-- A plus sign may stand before the digits. -/
def readPort (text : String) : Except ValueError UInt16 :=
  match text.toList with
  | [] => .error .emptyNumber
  | '+' :: c :: rest => (portDigits 0 (c :: rest)).map UInt16.ofNat
  | cs => (portDigits 0 cs).map UInt16.ofNat

def readFlag (text : String) : Except ValueError Bool :=
  if text = "true" then .ok true else if text = "false" then .ok false else .error .flag

def readDuration (text : String) : Except ValueError Duration := (Duration.ofText text).mapError .duration

def readBackend (text : String) : Except ValueError CacheBackend :=
  let name := Text.lowercase text
  if name = "redis" ∨ name = "valkey" then .ok .redis
  else if name = "memory" then .ok .memory
  else .error (.name name)

def readLogFormat (text : String) : Except ValueError LogFormat :=
  let name := Text.lowercase text
  if name = "json" then .ok .json
  else if name = "pretty" ∨ name = "text" then .ok .pretty
  else .error (.name name)

/-- A lifetime of zero is none. -/
def readTtl (text : String) : Except ValueError (Option Duration) :=
  (readDuration text).map fun d => if d.isZero then none else some d

def read : (v : Variable) → String → Except ValueError v.Value
  | port, text => readPort text
  | requestTimeout, text | reconnectInterval, text | providerTimeout, text => readDuration text
  | backend, text => readBackend text
  | ttl, text => readTtl text
  | redisUsername, text | redisPassword, text => .ok (some text)
  | logFormat, text => readLogFormat text
  | metricsEnabled, text => readFlag text
  | bindAddress, text | keyPrefix, text | redisUrl, text | baseUrl, text | apiKey, text
  | logLevel, text | metricsAddress, text => .ok text

end Variable

structure OverrideError where
  culprit : Variable
  error : ValueError
  deriving DecidableEq, Repr

def OverrideError.message (e : OverrideError) : String :=
  "Invalid " ++ e.culprit.name ++ ": " ++ e.error.message

namespace Config

/-- Overrides in turn; the first value that is refused ends them, and the ones before it stay. -/
def overrideWith (lookup : String → Option String) : List Variable → Config → Config × Option OverrideError
  | [], c => (c, none)
  | v :: rest, c =>
    match lookup v.name with
    | none => overrideWith lookup rest c
    | some text =>
      match v.read text with
      | .ok x => overrideWith lookup rest (v.set x c)
      | .error e => (c, some ⟨v, e⟩)

def override (lookup : String → Option String) (c : Config) : Config × Option OverrideError :=
  overrideWith lookup Variable.all c

end Config

end PlaceGateway
