import PlaceGateway.Bytes
/-! Double-precision numbers by their 64 bits, so that two of them are equal only when every bit is. -/

namespace PlaceGateway

structure Binary64 where
  bits : UInt64
  deriving DecidableEq, Repr

namespace Binary64

def zero : Binary64 := ⟨0⟩

instance : Inhabited Binary64 := ⟨zero⟩

def isNegative (x : Binary64) : Bool := x.bits >>> 63 == 1

def magnitude (x : Binary64) : Nat := (x.bits &&& 0x7FFFFFFFFFFFFFFF).toNat

def infinite : Nat := 0x7FF0000000000000

def isFinite (x : Binary64) : Bool := x.magnitude < infinite

def isNaN (x : Binary64) : Bool := infinite < x.magnitude

def isZero (x : Binary64) : Bool := x.magnitude == 0

def unsignZero (x : Binary64) : Binary64 := if x.isZero then zero else x

def ofMagnitude (negative : Bool) (magnitude : Nat) : Binary64 :=
  ⟨UInt64.ofNat (if negative then 2 ^ 63 + magnitude else magnitude)⟩

/-- A finite magnitude is `significand * 2 ^ exponent`. -/
def significand (x : Binary64) : Nat :=
  if x.magnitude / 2 ^ 52 = 0 then x.magnitude else 2 ^ 52 + x.magnitude % 2 ^ 52

def exponent (x : Binary64) : Int :=
  if x.magnitude / 2 ^ 52 = 0 then -1074 else (x.magnitude / 2 ^ 52 : Nat) - 1075

def ratio (x : Binary64) : Nat × Nat :=
  (x.significand * 2 ^ x.exponent.toNat, 2 ^ (-x.exponent).toNat)

/-- The quotient rounded to the nearest natural number, a half to the even one. -/
def divideHalfEven (numerator denominator : Nat) : Nat :=
  let quotient := numerator / denominator
  match compare (2 * (numerator % denominator)) denominator with
  | .lt => quotient
  | .gt => quotient + 1
  | .eq => quotient + quotient % 2

def floorLog2 (numerator denominator : Nat) : Int :=
  let estimate : Int := (numerator.log2 : Int) - (denominator.log2 : Int)
  if numerator * 2 ^ (-estimate).toNat < denominator * 2 ^ estimate.toNat then estimate - 1
  else estimate

/-- The magnitude nearest to a quotient of natural numbers, a half to the even one;
beyond the largest finite one it is infinite. -/
def nearest (numerator denominator : Nat) : Nat :=
  if numerator = 0 then 0
  else
    let unit : Int := max (floorLog2 numerator denominator - 52) (-1074)
    let rounded := divideHalfEven (numerator * 2 ^ (-unit).toNat) (denominator * 2 ^ unit.toNat)
    min ((unit + 1074).toNat * 2 ^ 52 + rounded) infinite

def ofNat (n : Nat) : Binary64 := ofMagnitude false (nearest n 1)

def ofInt (i : Int) : Binary64 := ofMagnitude (i < 0) (nearest i.natAbs 1)

/-- The product of finite numbers. -/
def mul (x y : Binary64) : Binary64 :=
  ofMagnitude (x.isNegative != y.isNegative)
    (nearest (x.ratio.1 * y.ratio.1) (x.ratio.2 * y.ratio.2))

/-- The quotient of finite numbers, the second not zero. -/
def div (x y : Binary64) : Binary64 :=
  ofMagnitude (x.isNegative != y.isNegative)
    (nearest (x.ratio.1 * y.ratio.2) (x.ratio.2 * y.ratio.1))

def neg (x : Binary64) : Binary64 := ⟨x.bits ^^^ 0x8000000000000000⟩

end Binary64

end PlaceGateway
