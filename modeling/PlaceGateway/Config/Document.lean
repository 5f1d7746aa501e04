import PlaceGateway.Config
import PlaceGateway.Yaml
/-! The configuration as a YAML document. Settings that the document does not name keep their defaults,
and names that are no settings are skipped. -/

namespace PlaceGateway

open Yaml (Node)

namespace Yaml.Node

abbrev Fields := List (String × Node)

def name? (node : Node) : Option String :=
  match node.bare with
  | scalar _ text => some text
  | _ => none

def fields? (node : Node) : Option Fields :=
  match node.bare with
  | mapping entries => entries.mapM fun (key, value) => return (← key.name?, value)
  | scalar true "" => some []
  | _ => none

/-- A field that is given twice is refused. -/
def Fields.read {α : Type} (fields : Fields) (name : String) (read : Node → Option α) (default : α) :
    Option α :=
  match fields.filter (·.1 == name) with
  | [] => some default
  | [(_, node)] => read node
  | _ => none

def text? : Node → Option String := name?

def nullNames : List String := ["~", "null", "Null", "NULL"]

def isNull : Node → Bool
  | scalar true text => text = "" || nullNames.contains text
  | _ => false

/-- A value with the tag of nothing is nothing by name; any other tag makes it something. -/
def optional? {α : Type} (read : Node → Option α) (node : Node) : Option (Option α) :=
  match node with
  | tagged "tag:yaml.org,2002:null" (scalar true text) =>
    if nullNames.contains text then some none else none
  | node => if node.isNull then some none else (read node).map some

def choice? {α : Type} (ofName? : String → Option α) : Node → Option α
  | tagged tag node =>
    if node.isNull ∧ tag.toList.head? = some '!' then ofName? (String.ofList (tag.toList.drop 1)) else none
  | node => do ofName? (← node.name?)

def flag? (node : Node) : Option Bool :=
  match node.bare with
  | scalar true text =>
    if ["true", "True", "TRUE"].contains text then some true
    else if ["false", "False", "FALSE"].contains text then some false
    else none
  | _ => none

def digits? (radix : Nat) (cs : List Char) : Option Nat :=
  match SocketAddress.number? radix cs.length (2 ^ 64) cs with
  | some (n, []) => some n
  | _ => none

/-- A sign may be a plus. Decimal digits after a zero make no number. -/
def natural? (node : Node) : Option Nat :=
  match node.bare with
  | scalar true text =>
    let cs := text.toList
    let cs := if cs.head? = some '+' then cs.drop 1 else cs
    match cs with
    | '0' :: 'x' :: rest => digits? 16 rest
    | '0' :: 'o' :: rest => digits? 8 rest
    | '0' :: 'b' :: rest => digits? 2 rest
    | '0' :: _ :: _ => none
    | cs => digits? 10 cs
  | _ => none

def port? (node : Node) : Option UInt16 := do
  let n ← node.natural?
  if n < 65536 then some (.ofNat n) else none

def duration? (node : Node) : Option Duration := do (Duration.ofText (← node.text?)).toOption

end Yaml.Node

def ServerConfig.ofNode? (node : Node) : Option ServerConfig := do
  let fields ← node.fields?
  let c : ServerConfig := {}
  return {
    bindAddress := ← fields.read "bind_address" Node.text? c.bindAddress
    port := ← fields.read "port" Node.port? c.port
    requestTimeout := ← fields.read "request_timeout" Node.duration? c.requestTimeout }

def RedisConfig.ofNode? (node : Node) : Option RedisConfig := do
  let fields ← node.fields?
  let c : RedisConfig := {}
  return {
    url := ← fields.read "url" Node.text? c.url
    username := ← fields.read "username" (Node.optional? Node.text?) c.username
    password := ← fields.read "password" (Node.optional? Node.text?) c.password
    connectionTimeout := ← fields.read "connection_timeout" Node.duration? c.connectionTimeout
    operationTimeout := ← fields.read "operation_timeout" Node.duration? c.operationTimeout
    reconnectInterval := ← fields.read "reconnect_interval" Node.duration? c.reconnectInterval }

def CacheConfig.ofNode? (node : Node) : Option CacheConfig := do
  let fields ← node.fields?
  let c : CacheConfig := {}
  return {
    backend := ← fields.read "backend" (Node.choice? CacheBackend.ofName?) c.backend
    keyPrefix := ← fields.read "key_prefix" Node.text? c.keyPrefix
    ttl := ← fields.read "ttl" (Node.optional? Node.duration?) c.ttl
    cleanupInterval := ← fields.read "cleanup_interval" Node.duration? c.cleanupInterval
    redis := ← fields.read "redis" RedisConfig.ofNode? c.redis }

def ProviderConfig.ofNode? (node : Node) : Option ProviderConfig := do
  let fields ← node.fields?
  let c : ProviderConfig := {}
  return {
    baseUrl := ← fields.read "base_url" Node.text? c.baseUrl
    apiKey := ← fields.read "api_key" Node.text? c.apiKey
    timeout := ← fields.read "timeout" Node.duration? c.timeout }

def ObservabilityConfig.ofNode? (node : Node) : Option ObservabilityConfig := do
  let fields ← node.fields?
  let c : ObservabilityConfig := {}
  return {
    logLevel := ← fields.read "log_level" Node.text? c.logLevel
    logFormat := ← fields.read "log_format" (Node.choice? LogFormat.ofName?) c.logFormat
    metricsEnabled := ← fields.read "metrics_enabled" Node.flag? c.metricsEnabled
    metricsAddress := ← fields.read "metrics_address" Node.text? c.metricsAddress }

namespace Config

def ofNode? (node : Node) : Option Config := do
  let fields ← node.fields?
  let c : Config := {}
  return {
    server := ← fields.read "server" ServerConfig.ofNode? c.server
    cache := ← fields.read "cache" CacheConfig.ofNode? c.cache
    provider := ← fields.read "upstream" ProviderConfig.ofNode? c.provider
    observability := ← fields.read "observability" ObservabilityConfig.ofNode? c.observability }

def ofYaml? (text : String) : Option Config := do
  match ← Yaml.document? text with
  | none => return {}
  | some node => ofNode? node

end Config

end PlaceGateway
