import PlaceGateway.CallError
import PlaceGateway.Table
import PlaceGateway.Time
/-! The in-memory cache: entries that may expire, which stay until they are read or purged. Whatever the
backend, a failed read is a miss, and a failed write is dropped. -/

namespace PlaceGateway

structure MemoryEntry where
  value : Bytes
  expiresAt : Option Instant
  deriving DecidableEq, Repr

def MemoryEntry.isExpired (e : MemoryEntry) (now : Instant) : Bool := e.expiresAt.any (· ≤ now)

structure MemoryStore where
  entries : Table MemoryEntry
  deriving DecidableEq, Repr

namespace MemoryStore

def empty : MemoryStore := ⟨.empty⟩

/-- Expired entries count until they are removed. -/
def size (s : MemoryStore) : Nat := s.entries.size

/-- An expired entry is removed by the read that finds it. -/
def get (s : MemoryStore) (now : Instant) (key : String) : MemoryStore × Option Bytes :=
  match s.entries.get? key with
  | none => (s, none)
  | some e => if e.isExpired now then (⟨s.entries.erase key⟩, none) else (s, some e.value)

def set? (s : MemoryStore) (now : Instant) (key : String) (value : Bytes) (ttl : Option Duration) :
    Option MemoryStore :=
  match ttl with
  | none => some ⟨s.entries.set key ⟨value, none⟩⟩
  | some d => (Instant.add? now d).map fun t => ⟨s.entries.set key ⟨value, some t⟩⟩

def delete (s : MemoryStore) (key : String) : MemoryStore × Bool :=
  (⟨s.entries.erase key⟩, s.entries.contains key)

def live (s : MemoryStore) (now : Instant) : Table MemoryEntry :=
  ⟨s.entries.entries.filter fun entry => !entry.2.isExpired now⟩

def purge (s : MemoryStore) (now : Instant) : MemoryStore × Nat :=
  (⟨s.live now⟩, s.size - (s.live now).size)

end MemoryStore

namespace ValueStore

/-- What a reader makes of a backend's answer. An empty value is a miss. -/
def found (answer : Except CacheError (Option Bytes)) : Option Bytes :=
  match answer with
  | .ok (some value) => if value = [] then none else some value
  | _ => none

def isError {α : Type} : Except CacheError α → Bool
  | .ok _ => false
  | .error _ => true

/-- A lifetime of zero is none at all. -/
def lifetime (ttl : Option Duration) : Option Duration := ttl.filter (!·.isZero)

end ValueStore

end PlaceGateway
