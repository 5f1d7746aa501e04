import PlaceGateway.Table
import PlaceGateway.Time
/-! The commands of the Redis cache, and a server that carries them out on a map of keys that expire. -/

namespace PlaceGateway.Redis

inductive Command where
  | get (key : String)
  | set (key : String) (value : Bytes) (millis : Option Nat)
  | delete (key : String)
  | ping
  deriving DecidableEq, Repr

def Command.arguments : Command → List Bytes
  | get key => [.ofText "GET", .ofText key]
  | set key value none => [.ofText "SET", .ofText key, value]
  | set key value (some millis) =>
    [.ofText "SET", .ofText key, value, .ofText "PX", .ofText (toString millis)]
  | delete key => [.ofText "DEL", .ofText key]
  | ping => [.ofText "PING"]

/-- At least one millisecond, and at most 64 bits of them. -/
def lifetimeMillis (ttl : Duration) : Nat := max 1 (min ttl.millis (2 ^ 64 - 1))

inductive Reply where
  | value (value : Option Bytes)
  | done
  | count (count : Nat)
  | pong
  deriving DecidableEq, Repr

structure Entry where
  value : Bytes
  expiresAt : Option Instant
  deriving DecidableEq, Repr

def Entry.isLive (e : Entry) (now : Instant) : Bool := e.expiresAt.all (now < ·)

structure Server where
  entries : Table Entry
  deriving DecidableEq, Repr

namespace Server

def empty : Server := ⟨.empty⟩

def live? (s : Server) (now : Instant) (key : String) : Option Entry :=
  (s.entries.get? key).filter (·.isLive now)

def execute (s : Server) (now : Instant) : Command → Server × Reply
  | .get key => (s, .value ((s.live? now key).map Entry.value))
  | .set key value millis =>
    (⟨s.entries.set key ⟨value, millis.map fun n => now + n * 10 ^ 6⟩⟩, .done)
  | .delete key => (⟨s.entries.erase key⟩, .count (if (s.live? now key).isSome then 1 else 0))
  | .ping => (s, .pong)

end Server

end PlaceGateway.Redis
