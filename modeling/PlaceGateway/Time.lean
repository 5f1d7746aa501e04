import PlaceGateway.Bytes
/-! Durations, and a clock that counts nanoseconds from its start. -/

namespace PlaceGateway

structure Duration where
  nanos : Nat
  nanos_lt : nanos < 2 ^ 64 * 10 ^ 9
  deriving DecidableEq, Repr

namespace Duration

def ofNanos (n : Nat) : Duration := ⟨min n (2 ^ 64 * 10 ^ 9 - 1), by omega⟩

def ofMillis (n : Nat) : Duration := ofNanos (n * 10 ^ 6)

def ofSeconds (n : Nat) : Duration := ofNanos (n * 10 ^ 9)

def zero : Duration := ofNanos 0

instance : Inhabited Duration := ⟨zero⟩

def isZero (d : Duration) : Bool := d.nanos == 0

def millis (d : Duration) : Nat := d.nanos / 10 ^ 6

end Duration

/-- Nanoseconds since the start of the clock. -/
abbrev Instant := Nat

namespace Instant

/-- The clock counts 63 bits of seconds. -/
def limit : Nat := 2 ^ 63 * 10 ^ 9

def add? (t : Instant) (d : Duration) : Option Instant :=
  if t + d.nanos < limit then some (t + d.nanos) else none

theorem add?_eq_some_iff {t t' : Instant} {d : Duration} :
    t.add? d = some t' ↔ t + d.nanos < limit ∧ t' = t + d.nanos := by
  rw [add?]
  split
  · rename_i reached
    rw [Option.some.injEq, and_iff_right reached]
    exact eq_comm
  · rename_i late
    exact ⟨nofun, fun both => absurd both.1 late⟩

/-- Timers count whole milliseconds, and none fires before its time. -/
def fireTick (t : Instant) : Nat := (t + 999999) / 10 ^ 6

def tick (now : Instant) : Nat := now / 10 ^ 6

def hasFired (now t : Instant) : Bool := fireTick t ≤ tick now

def arrival (now t : Instant) : Instant := now + (fireTick t - tick now) * 10 ^ 6

end Instant

end PlaceGateway
