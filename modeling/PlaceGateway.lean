import PlaceGateway.Binary64
import PlaceGateway.Bytes
import PlaceGateway.CacheKey
import PlaceGateway.CallError
import PlaceGateway.Config
import PlaceGateway.Config.Document
import PlaceGateway.Config.Load
import PlaceGateway.Config.Problem
import PlaceGateway.Config.Variable
import PlaceGateway.Context
import PlaceGateway.Decimal
import PlaceGateway.DurationText
import PlaceGateway.Enumeration
import PlaceGateway.Fetch
import PlaceGateway.Flight
import PlaceGateway.Json.Draft
import PlaceGateway.Json.Numeral
import PlaceGateway.Json.Shape
import PlaceGateway.Json.Value
import PlaceGateway.LogFilter
import PlaceGateway.MemoryStore
import PlaceGateway.Metered
import PlaceGateway.Place
import PlaceGateway.Place.Json
import PlaceGateway.Place.Protobuf
import PlaceGateway.Proofs.Backends
import PlaceGateway.Proofs.Binary64
import PlaceGateway.Proofs.Bytes
import PlaceGateway.Proofs.CacheKey.Canonical
import PlaceGateway.Proofs.CacheKey.Collisions
import PlaceGateway.Proofs.CacheKey.Keys
import PlaceGateway.Proofs.CacheKey.Operations
import PlaceGateway.Proofs.Config.Overrides
import PlaceGateway.Proofs.Config.Rereading
import PlaceGateway.Proofs.Config.Startup
import PlaceGateway.Proofs.Context
import PlaceGateway.Proofs.ContextTree.Inheritance
import PlaceGateway.Proofs.Fetch.Balance
import PlaceGateway.Proofs.Fetch.Coalesce
import PlaceGateway.Proofs.Fetch.FailOpen
import PlaceGateway.Proofs.Fetch.Hits
import PlaceGateway.Proofs.Fetch.Isolation
import PlaceGateway.Proofs.Fetch.Joins
import PlaceGateway.Proofs.Fetch.KeyIsolation
import PlaceGateway.Proofs.Fetch.Lifetimes
import PlaceGateway.Proofs.Fetch.Provenance
import PlaceGateway.Proofs.Fetch.Returns
import PlaceGateway.Proofs.Flight.Delivery
import PlaceGateway.Proofs.Flight.Keys
import PlaceGateway.Proofs.Json.Lengths
import PlaceGateway.Proofs.Json.RoundTrip
import PlaceGateway.Proofs.Json.Texts
import PlaceGateway.Proofs.MemoryStore
import PlaceGateway.Proofs.Metered
import PlaceGateway.Proofs.Place.NegativeZeros
import PlaceGateway.Proofs.Place.RoundTrip
import PlaceGateway.Proofs.Place.Sizes
import PlaceGateway.Proofs.Place.Truncation
import PlaceGateway.Proofs.Provider.Calls
import PlaceGateway.Proofs.Provider.Lookups
import PlaceGateway.Proofs.Provider.Names
import PlaceGateway.Proofs.Provider.Retold
import PlaceGateway.Proofs.Provider.SearchBody
import PlaceGateway.Proofs.Redis.Redaction
import PlaceGateway.Proofs.Service
import PlaceGateway.Proofs.Stack.Answers
import PlaceGateway.Proofs.Stack.Durations
import PlaceGateway.Proofs.Stack.Kinds
import PlaceGateway.Proofs.Stack.Screening
import PlaceGateway.Proofs.Stack.Served
import PlaceGateway.Proofs.TimedMap
import PlaceGateway.Protobuf.Message
import PlaceGateway.Protobuf.Wire
import PlaceGateway.Provider.Exchange
import PlaceGateway.Provider.Failure
import PlaceGateway.Provider.Place
import PlaceGateway.Provider.Query
import PlaceGateway.Redis.Address
import PlaceGateway.Redis.Command
import PlaceGateway.Redis.Store
import PlaceGateway.Request
import PlaceGateway.Request.Json
import PlaceGateway.Request.Key
import PlaceGateway.Row
import PlaceGateway.Scenario.Context
import PlaceGateway.Scenario.Faults
import PlaceGateway.Scenario.Fetch
import PlaceGateway.Scenario.Flight
import PlaceGateway.Scenario.Redis
import PlaceGateway.Scenario.Service
import PlaceGateway.Scenario.Store
import PlaceGateway.Series
import PlaceGateway.Series.Catalogue
import PlaceGateway.Service
import PlaceGateway.Service.MediaType
import PlaceGateway.Sha256
import PlaceGateway.SocketAddress
import PlaceGateway.Table
import PlaceGateway.Text.Characters
import PlaceGateway.Text.Lowercase
import PlaceGateway.Text.Quoted
import PlaceGateway.Time
import PlaceGateway.Url
import PlaceGateway.Url.Host
import PlaceGateway.Url.Percent
import PlaceGateway.Yaml
import PlaceGateway.Yaml.Scalar
