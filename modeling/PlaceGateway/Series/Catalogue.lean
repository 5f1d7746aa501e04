/-! What the gateway says about its series of metrics. -/

namespace PlaceGateway.Series

inductive Kind where
  | counter
  | gauge
  | histogram
  deriving DecidableEq, Repr

def Kind.name : Kind → String
  | counter => "counter"
  | gauge => "gauge"
  | histogram => "histogram"

structure Description where
  kind : Kind
  name : String
  unit : Option String
  help : String
  deriving DecidableEq, Repr

def catalogue : List Description :=
  [⟨.counter, "places_cache_hits_total", none, "Lookups answered from the cache"⟩,
   ⟨.counter, "places_cache_misses_total", none, "Lookups that fell through to the loader"⟩,
   ⟨.counter, "places_cache_store_errors_total", none,
    "Cache backend failures absorbed as a miss or dropped write"⟩,
   ⟨.counter, "places_singleflight_shared_total", none, "Callers that joined a load already in flight"⟩,
   ⟨.counter, "places_rpc_requests_total", none, "Places requests by method and status"⟩,
   ⟨.gauge, "places_rpc_inflight_requests", none, "Places requests currently running"⟩,
   ⟨.histogram, "places_rpc_request_duration_seconds", some "seconds", "Places request latency"⟩]

end PlaceGateway.Series
