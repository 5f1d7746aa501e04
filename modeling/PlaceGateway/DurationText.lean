import PlaceGateway.Text.Characters
import PlaceGateway.Text.Quoted
import PlaceGateway.Time
/-! Durations as people write them: whole or fractional numbers with units, such as `1h 30m`. -/

namespace PlaceGateway

inductive DurationUnit where
  | nanosecond
  | microsecond
  | millisecond
  | second
  | minute
  | hour
  | day
  | week
  | month
  | year
  deriving DecidableEq, Repr

namespace DurationUnit

def names : DurationUnit → List String
  | nanosecond => ["nanos", "nsec", "ns"]
  | microsecond => ["usec", "us", "µs"]
  | millisecond => ["millis", "msec", "ms"]
  | second => ["seconds", "second", "secs", "sec", "s"]
  | minute => ["minutes", "minute", "mins", "min", "m"]
  | hour => ["hours", "hour", "hrs", "hr", "h"]
  | day => ["days", "day", "d"]
  | week => ["weeks", "week", "wks", "wk", "w"]
  | month => ["months", "month", "M"]
  | year => ["years", "year", "yrs", "yr", "y"]

def all : List DurationUnit :=
  [nanosecond, microsecond, millisecond, second, minute, hour, day, week, month, year]

def ofName? (name : String) : Option DurationUnit := all.find? fun u => u.names.contains name

/-- A year has 365.25 days, and a month is the twelfth part of a year. -/
def seconds : DurationUnit → Nat
  | nanosecond | microsecond | millisecond => 0
  | second => 1
  | minute => 60
  | hour => 3600
  | day => 86400
  | week => 604800
  | month => 2630016
  | year => 31557600

def nanos : DurationUnit → Nat
  | nanosecond => 1
  | microsecond => 10 ^ 3
  | millisecond => 10 ^ 6
  | _ => 0

/-- The step in nanoseconds in which fractions of the unit are counted: a second from the hour on.
Nanoseconds have no fractions. -/
def grain : DurationUnit → Nat
  | nanosecond => 0
  | microsecond | millisecond | second | minute => 1
  | _ => 10 ^ 9

end DurationUnit

inductive DurationError where
  | empty
  | numberExpected (offset : Nat)
  | invalidCharacter (offset : Nat)
  | unitNeeded (number : Nat)
  | unknownUnit (name : String)
  | outOfRange
  deriving DecidableEq, Repr

def DurationError.message : DurationError → String
  | empty => "value was empty"
  | numberExpected offset => "expected number at " ++ toString offset
  | invalidCharacter offset => "invalid character at " ++ toString offset
  | unitNeeded n =>
    "time unit needed, for example " ++ toString n ++ "sec or " ++ toString n ++ "ms"
  | unknownUnit name =>
    "unknown time unit " ++ Text.quoted name ++
      ", supported units: ns, us/µs, ms, sec, min, hours, days, weeks, months, years (and few variations)"
  | outOfRange =>
    "number is too large or cannot be represented without a lack of precision " ++
      "(values below 1ns are not supported)"

namespace DurationText

structure Fraction where
  numerator : Nat
  denominator : Nat
  deriving DecidableEq, Repr

inductive Stage where
  | gap (start : Nat)
  | number (whole : Nat)
  | fraction (whole : Nat) (part : Fraction) (offset : Nat)
  | unit (whole : Nat) (part : Option Fraction) (letters : List Char)
  deriving Repr

structure Reading where
  nanos : Nat
  stage : Stage
  deriving Repr

def fits (n : Nat) : Except DurationError Nat := if n < 2 ^ 64 then .ok n else .error .outOfRange

def add (total seconds nanos : Nat) : Except DurationError Nat := do
  let seconds ← fits seconds
  let nanos ← fits nanos
  let _ ← fits (total % 10 ^ 9 + nanos)
  let sum := total + seconds * 10 ^ 9 + nanos
  let _ ← fits (sum / 10 ^ 9)
  return sum

/-- A fraction must be a whole number of grains. -/
def addFraction (unit : DurationUnit) (part : Fraction) (total : Nat) : Except DurationError Nat := do
  if unit.grain = 0 then throw .outOfRange
  let scaled ← fits (part.numerator * ((unit.seconds * 10 ^ 9 + unit.nanos) / unit.grain))
  if scaled % part.denominator ≠ 0 then throw .outOfRange
  let grains := scaled / part.denominator
  if unit.grain = 1 then add total 0 grains else add total grains 0

def addItem (total whole : Nat) (part : Option Fraction) (letters : List Char) :
    Except DurationError Nat := do
  if letters = [] then throw (.unitNeeded whole)
  let name := String.ofList letters.reverse
  match DurationUnit.ofName? name with
  | none => throw (.unknownUnit name)
  | some unit =>
    let total ← add total (whole * unit.seconds) (whole * unit.nanos)
    match part with
    | none => return total
    | some part => addFraction unit part total

def isLetter (c : Char) : Bool := c.isAlpha || c == 'µ'

def digit (c : Char) : Nat := c.toNat - 48

def step (r : Reading) (offset : Nat) (c : Char) : Except DurationError Reading :=
  match r.stage with
  | .gap start =>
    if c.isDigit then .ok { r with stage := .number (digit c) }
    else if Text.isBlank c then .ok r
    else .error (.numberExpected start)
  | .number whole =>
    if c.isDigit then (fits (whole * 10 + digit c)).map fun whole => { r with stage := .number whole }
    else if Text.isBlank c then .ok r
    else if isLetter c then .ok { r with stage := .unit whole none [c] }
    else if c = '.' then .ok { r with stage := .fraction whole ⟨0, 1⟩ offset }
    else .error (.invalidCharacter offset)
  | .fraction whole part start =>
    if c.isDigit then do
      let denominator ← fits (part.denominator * 10)
      let numerator ← fits (part.numerator * 10 + digit c)
      return { r with stage := .fraction whole ⟨numerator, denominator⟩ (offset + 1) }
    else if Text.isBlank c then
      .ok { r with stage := .fraction whole part (offset + c.utf8Size) }
    else if isLetter c ∧ part.denominator ≠ 1 then .ok { r with stage := .unit whole (some part) [c] }
    else .error (.invalidCharacter start)
  | .unit whole part letters =>
    if c.isDigit then
      (addItem r.nanos whole part letters).map fun nanos => ⟨nanos, .number (digit c)⟩
    else if Text.isBlank c then
      (addItem r.nanos whole part letters).map fun nanos => ⟨nanos, .gap (offset + c.utf8Size)⟩
    else if isLetter c then .ok { r with stage := .unit whole part (c :: letters) }
    else .error (.invalidCharacter offset)

def steps : Reading → Nat → List Char → Except DurationError Reading
  | r, _, [] => .ok r
  | r, offset, c :: rest => do steps (← step r offset c) (offset + c.utf8Size) rest

def finish (r : Reading) : Except DurationError Nat :=
  match r.stage with
  | .gap _ => .ok r.nanos
  | .number whole => .error (.unitNeeded whole)
  | .fraction whole part offset =>
    if part.denominator = 1 then .error (.invalidCharacter offset) else .error (.unitNeeded whole)
  | .unit whole part letters => addItem r.nanos whole part letters

def readNanos (text : String) : Except DurationError Nat := do
  if text = "0" then return 0
  if text.toList.all Text.isBlank then throw .empty
  finish (← steps ⟨0, .gap 0⟩ 0 text.toList)

end DurationText

namespace Duration

def ofText (text : String) : Except DurationError Duration := (DurationText.readNanos text).map ofNanos

def item (n : Nat) (unit : String) : List String := if n = 0 then [] else [toString n ++ unit]

def longItem (n : Nat) (unit : String) : List String :=
  if n = 0 then [] else [toString n ++ unit ++ (if n = 1 then "" else "s")]

/-- The largest units first, none of them zero. -/
def text (d : Duration) : String :=
  if d.nanos = 0 then "0s"
  else
    let seconds := d.nanos / 10 ^ 9
    let nanos := d.nanos % 10 ^ 9
    let inYear := seconds % 31557600
    let inMonth := inYear % 2630016
    let inDay := inMonth % 86400
    " ".intercalate <|
      longItem (seconds / 31557600) "year" ++ longItem (inYear / 2630016) "month" ++
      longItem (inMonth / 86400) "day" ++ item (inDay / 3600) "h" ++ item (inDay % 3600 / 60) "m" ++
      item (inDay % 60) "s" ++ item (nanos / 10 ^ 6) "ms" ++ item (nanos / 10 ^ 3 % 1000) "us" ++
      item (nanos % 1000) "ns"

end Duration

end PlaceGateway
