import PlaceGateway.Fetch
/-! A cache backend whose operations can be made to fail, one by one. -/

namespace PlaceGateway.Scenario

structure Faults where
  reads : Bool
  writes : Bool
  health : Bool
  unhealthy : Bool
  blindReads : Nat
  deriving DecidableEq, Repr

structure FaultChange where
  reads : Option Bool
  writes : Option Bool
  health : Option Bool
  unhealthy : Option Bool
  blindReads : Option Nat

namespace Faults

def none : Faults := ⟨false, false, false, false, 0⟩

def change (f : Faults) (c : FaultChange) : Faults where
  reads := c.reads.getD f.reads
  writes := c.writes.getD f.writes
  health := c.health.getD f.health
  unhealthy := c.unhealthy.getD f.unhealthy
  blindReads := c.blindReads.getD f.blindReads

/-- How the next read is answered. A failing read uses no blind one up. -/
def read (f : Faults) : Faults × Fetch.Read :=
  if f.reads then (f, .failed)
  else match f.blindReads with
    | 0 => (f, .actual)
    | n + 1 => ({ f with blindReads := n }, .answered .none)

def write (f : Faults) : Fetch.Write := if f.writes then .failed else .kept

def isHealthy (f : Faults) : Bool := !f.health && !f.unhealthy

end Faults

end PlaceGateway.Scenario
