import PlaceGateway.CallError
import PlaceGateway.Redis.Command
/-! The Redis cache: each operation is one command, and fails while no connection was established. -/

namespace PlaceGateway.Redis.Store

abbrev Link := Command → Except CacheError Reply

def notConnected : CacheError := .store "Redis not connected"

def Link.none : Link := fun _ => .error notConnected

def unexpectedReply : CacheError := .redis "unexpected reply"

def get (link : Link) (key : String) : Except CacheError (Option Bytes) :=
  match link (.get key) with
  | .ok (.value value) => .ok value
  | .ok _ => .error unexpectedReply
  | .error e => .error e

def set (link : Link) (key : String) (value : Bytes) (ttl : Option Duration) : Except CacheError Unit :=
  match link (.set key value (ttl.map lifetimeMillis)) with
  | .ok .done => .ok ()
  | .ok _ => .error unexpectedReply
  | .error e => .error e

def delete (link : Link) (key : String) : Except CacheError Bool :=
  match link (.delete key) with
  | .ok (.count n) => .ok (0 < n)
  | .ok _ => .error unexpectedReply
  | .error e => .error e

def health (link : Link) : Except CacheError Bool :=
  match link .ping with
  | .ok .pong => .ok true
  | .ok _ => .ok false
  | .error e => .error e

end PlaceGateway.Redis.Store
