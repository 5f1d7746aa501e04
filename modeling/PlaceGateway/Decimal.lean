import PlaceGateway.Binary64
/-! The shortest decimal that reads back as a double, and the two ways the gateway writes it. -/

namespace PlaceGateway

/-- The decimal `digits * 10 ^ exponent`. -/
structure Decimal where
  digits : Nat
  exponent : Int
  deriving DecidableEq, Repr

namespace Decimal

inductive Tie where
  | even
  | up
  deriving DecidableEq, Repr

def compareScaled (a : Nat) (i : Int) (n : Nat) (j : Int) : Ordering :=
  compare (a * 10 ^ i.toNat * 2 ^ (-j).toNat) (n * 2 ^ j.toNat * 10 ^ (-i).toNat)

/-- The decimal lies among the reals that round to the magnitude of `x`. The gap below a power of
two is half the gap above it, and the ends belong to the even significand. -/
def ReadsBack (x : Binary64) (d : Decimal) : Bool :=
  let narrow := x.magnitude % 2 ^ 52 = 0 ∧ 1 < x.magnitude / 2 ^ 52
  let low := compareScaled d.digits d.exponent
    (4 * x.significand - (if narrow then 1 else 2)) (x.exponent - 2)
  let high := compareScaled d.digits d.exponent (4 * x.significand + 2) (x.exponent - 2)
  if x.significand % 2 = 0 then low != .lt && high != .gt else low == .gt && high == .lt

/-- The least `k` with the magnitude below `10 ^ k`, found upwards from a number that is too small. -/
def scaleFrom (x : Binary64) : Nat → Int → Int
  | 0, k => k
  | fuel + 1, k =>
    if compareScaled 1 k x.significand x.exponent == .gt then k else scaleFrom x fuel (k + 1)

def scale (x : Binary64) : Int :=
  scaleFrom x 4 (((x.significand.log2 : Int) + x.exponent) * 30103 / 100000)

/-- The nearer of the magnitude's two neighbours on the grid of `10 ^ exponent` that read back. -/
def onGrid (tie : Tie) (x : Binary64) (exponent : Int) : Option Decimal :=
  let numerator := x.ratio.1 * 10 ^ (-exponent).toNat
  let denominator := x.ratio.2 * 10 ^ exponent.toNat
  let below : Decimal := ⟨numerator / denominator, exponent⟩
  let above : Decimal := ⟨numerator / denominator + 1, exponent⟩
  match ReadsBack x below, ReadsBack x above with
  | false, false => none
  | true, false => some below
  | false, true => some above
  | true, true =>
    match compare (2 * numerator) ((below.digits + above.digits) * denominator), tie with
    | .lt, _ => some below
    | .gt, _ => some above
    | .eq, .up => some above
    | .eq, .even => some (if below.digits % 2 = 0 then below else above)

def strip : Nat → Decimal → Decimal
  | 0, d => d
  | fuel + 1, d =>
    if d.digits % 10 = 0 ∧ d.digits ≠ 0 then strip fuel ⟨d.digits / 10, d.exponent + 1⟩ else d

def exact (x : Binary64) : Decimal :=
  ⟨x.significand * 2 ^ x.exponent.toNat * 5 ^ (-x.exponent).toNat, -(-x.exponent).toNat⟩

def shortest (tie : Tie) (x : Binary64) : Decimal :=
  strip 20 (((List.range 17).findSome? fun (n : Nat) => onGrid tie x (scale x - ((n : Int) + 1))).getD (exact x))

def positional (digits : List Char) (whole : Int) (pointZero : Bool) : List Char :=
  if whole ≤ 0 then '0' :: '.' :: List.replicate (-whole).toNat '0' ++ digits
  else if digits.length ≤ whole.toNat then
    digits ++ List.replicate (whole.toNat - digits.length) '0' ++ (if pointZero then ['.', '0'] else [])
  else digits.take whole.toNat ++ '.' :: digits.drop whole.toNat

def scientific (digits : List Char) (power : Int) : List Char :=
  (match digits with
    | [] => []
    | [d] => [d]
    | d :: rest => d :: '.' :: rest)
  ++ 'e' :: (if power < 0 then '-' else '+') :: (Nat.repr power.natAbs).toList

/-- How a cache key writes a number: never an exponent, no point in a whole number. -/
def keyText (x : Binary64) : String :=
  if x.isNaN then "NaN"
  else if !x.isFinite then (if x.isNegative then "-Inf" else "+Inf")
  else
    let sign := if x.isNegative then "-" else ""
    if x.isZero then sign ++ "0"
    else
      let d := shortest .up x
      let digits := (Nat.repr d.digits).toList
      sign ++ String.ofList (positional digits (digits.length + d.exponent) false)

/-- How a JSON document writes a finite number: a whole number ends in `.0`, and the exponent form
begins where the first digit stands for less than `10 ^ -5` or at least `10 ^ 16`. -/
def jsonText (x : Binary64) : String :=
  let sign := if x.isNegative then "-" else ""
  if x.isZero then sign ++ "0.0"
  else
    let d := shortest .even x
    let digits := (Nat.repr d.digits).toList
    let power := digits.length + d.exponent - 1
    sign ++ String.ofList
      (if -5 ≤ power ∧ power < 16 then positional digits (power + 1) true
       else scientific digits power)

end Decimal

end PlaceGateway
