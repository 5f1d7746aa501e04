import PlaceGateway.Fetch
import PlaceGateway.Metered
/-! The series of metrics that the gateway counts. -/

namespace PlaceGateway.Series

def hits : String := "places_cache_hits_total"

def misses : String := "places_cache_misses_total"

def readErrors : String := "places_cache_store_errors_total\x7bop=get\x7d"

def writeErrors : String := "places_cache_store_errors_total\x7bop=set\x7d"

def shared : String := "places_singleflight_shared_total"

def labelled (name : String) (labels : List (String × String)) : String :=
  name ++ "\x7b" ++ ",".intercalate (labels.map fun l => l.1 ++ "=" ++ l.2) ++ "\x7d"

def inFlight (o : Operation) : String := labelled "places_rpc_inflight_requests" [("method", o.name)]

def durations (o : Operation) : String :=
  labelled "places_rpc_request_duration_seconds" [("method", o.name)]

def requests (o : Operation) (status : String) : String :=
  labelled "places_rpc_requests_total" [("method", o.name), ("status", status)]

/-- A series exists once it has been counted. -/
def counted (series : List (String × Nat)) : List (String × Int) :=
  series.filterMap fun s => if s.2 = 0 then none else some (s.1, (s.2 : Int))

def ofFlights {V : Type} (g : Flight.Group V) : List (String × Int) := counted [(shared, g.shared)]

def ofFetches (s : Fetch.State) : List (String × Int) :=
  counted [(hits, s.counters.hits), (misses, s.counters.misses), (readErrors, s.counters.readErrors),
    (writeErrors, s.counters.writeErrors)] ++ ofFlights s.flight.group

def ofTally (o : Operation) (t : Metered.Tally) : List (String × Int) :=
  (t.inFlight.map fun n => (inFlight o, n)).toList ++
    counted ((durations o, t.durations) :: t.requests.entries.map fun r => (requests o r.1, r.2))

def ofCalls (s : Metered.State) : List (String × Int) :=
  Operation.all.flatMap fun o => ofTally o (s.tally o)

end PlaceGateway.Series
