import PlaceGateway.Binary64
import PlaceGateway.Bytes
/-! Number literals of JSON, and the numbers that they stand for. -/

namespace PlaceGateway.Json

structure Numeral where
  negative : Bool
  whole : List Nat
  fraction : List Nat
  power : Option (Bool × List Nat)
  deriving DecidableEq, Repr

inductive Number where
  | integer (value : Int)
  | real (value : Binary64)
  deriving DecidableEq, Repr

namespace Numeral

def gather : Nat → List Nat → Nat × List Nat
  | n, [] => (n, [])
  | n, d :: ds => if n * 10 + d < 2 ^ 64 then gather (n * 10 + d) ds else (n, d :: ds)

/-- Divides by the largest power of ten until the exponent is in reach or nothing is left. -/
def shrink : Nat → Binary64 → Nat → Binary64
  | 0, _, _ => .zero
  | fuel + 1, x, k =>
    if k ≤ 308 then x.div (.ofNat (10 ^ k))
    else if x.isZero then x
    else shrink fuel (x.div (.ofNat (10 ^ 308))) (k - 308)

/-- One rounding for the significand and one for the power of ten. Nothing is given for a
number too large for a double. -/
def scaled (significand : Nat) (exponent : Int) : Option Binary64 :=
  let x := Binary64.ofNat significand
  if exponent < 0 then some (shrink 4 x exponent.natAbs)
  else if exponent ≤ 308 then
    let y := x.mul (.ofNat (10 ^ exponent.toNat))
    if y.isFinite then some y else none
  else if x.isZero then some x else none

def ofDigits (digits : List Nat) : Nat := digits.foldl (fun n d => n * 10 + d) 0

/-- A 64-bit significand and a power of ten. Whole digits beyond the significand count as zeros,
fractional digits beyond it are dropped. -/
def parts (n : Numeral) : Nat × Int :=
  let (high, spilled) := gather 0 n.whole
  let (significand, dropped) := gather high n.fraction
  (significand, spilled.length - (n.fraction.length - dropped.length : Nat))

def magnitude? (n : Numeral) : Option Binary64 :=
  let (significand, exponent) := n.parts
  match n.power with
  | none => scaled significand exponent
  | some (negative, digits) =>
    let power := ofDigits digits
    if 2 ^ 31 ≤ power then (if negative ∨ significand = 0 then some .zero else none)
    else scaled significand (if negative then exponent - power else exponent + power)

/-- A literal without point and exponent is an integer if it fits 64 bits; `-0` is not one. -/
def number? (n : Numeral) : Option Number :=
  let signed (x : Binary64) := Number.real (if n.negative then x.neg else x)
  match n.fraction, n.power, gather 0 n.whole with
  | [], none, (value, []) =>
    if n.negative then
      if value = 0 ∨ 2 ^ 63 < value then some (signed (.ofNat value)) else some (.integer (-value))
    else some (.integer value)
  | _, _, _ => n.magnitude?.map signed

end Numeral

end PlaceGateway.Json
