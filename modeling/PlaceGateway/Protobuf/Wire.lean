import PlaceGateway.Binary64
import PlaceGateway.Bytes
/-! The protobuf wire format: varints, keys of records, and records that are passed over. -/

namespace PlaceGateway.Protobuf

/-- Seven bits a byte, the lowest first. -/
def varint (n : Nat) : Bytes :=
  if n < 128 then [UInt8.ofNat n] else UInt8.ofNat (n % 128 + 128) :: varint (n / 128)

def varintSize (n : Nat) : Nat := n.log2 / 7 + 1

/-- Reads at most `left` bytes; the last of them may only be 0 or 1. -/
def readVarintWithin : Nat → Bytes → Option (Nat × Bytes)
  | 0, _ => none
  | _ + 1, [] => none
  | left + 1, b :: rest =>
    if b < 0x80 then
      if left = 0 ∧ 1 < b then none else some (b.toNat, rest)
    else (readVarintWithin left rest).map fun read => (b.toNat - 128 + 128 * read.1, read.2)

def readVarint (s : Bytes) : Option (Nat × Bytes) := readVarintWithin 10 s

inductive WireType where
  | varint
  | fixed64
  | delimited
  | groupStart
  | groupEnd
  | fixed32
  deriving DecidableEq, Repr

namespace WireType

def number : WireType → Nat
  | varint => 0
  | fixed64 => 1
  | delimited => 2
  | groupStart => 3
  | groupEnd => 4
  | fixed32 => 5

def ofNumber? : Nat → Option WireType
  | 0 => some varint
  | 1 => some fixed64
  | 2 => some delimited
  | 3 => some groupStart
  | 4 => some groupEnd
  | 5 => some fixed32
  | _ => none

end WireType

def key (tag : Nat) (wire : WireType) : Bytes := varint (tag * 8 + wire.number)

def keySize (tag : Nat) : Nat := varintSize (tag * 8)

/-- A key has 32 bits and a tag above zero. -/
def readKey (s : Bytes) : Option (Nat × WireType × Bytes) := do
  let (n, rest) ← readVarint s
  let wire ← WireType.ofNumber? (n % 8)
  if n < 2 ^ 32 ∧ 0 < n / 8 then some (n / 8, wire, rest) else none

def readBytes (count : Nat) (s : Bytes) : Option (Bytes × Bytes) :=
  if count ≤ s.length then some (s.take count, s.drop count) else none

def delimit (s : Bytes) : Bytes := varint s.length ++ s

def readDelimited (s : Bytes) : Option (Bytes × Bytes) := do
  let (count, rest) ← readVarint s
  readBytes count rest

def littleEndian : Nat → Nat → Bytes
  | 0, _ => []
  | count + 1, n => UInt8.ofNat (n % 256) :: littleEndian count (n / 256)

def ofLittleEndian : Bytes → Nat
  | [] => 0
  | b :: rest => b.toNat + 256 * ofLittleEndian rest

mutual

/-- What follows a record of an unknown tag. Groups nest at most `depth` deep. -/
def skipRecord : Nat → Nat → Nat → WireType → Bytes → Option Bytes
  | 0, _, _, _, _ => none
  | _ + 1, 0, _, _, _ => none
  | fuel + 1, depth + 1, tag, wire, s =>
    match wire with
    | .varint => (readVarint s).map Prod.snd
    | .fixed32 => (readBytes 4 s).map Prod.snd
    | .fixed64 => (readBytes 8 s).map Prod.snd
    | .delimited => (readDelimited s).map Prod.snd
    | .groupStart => skipGroup fuel depth tag s
    | .groupEnd => none

def skipGroup : Nat → Nat → Nat → Bytes → Option Bytes
  | 0, _, _, _ => none
  | fuel + 1, depth, tag, s =>
    match readKey s with
    | none => none
    | some (inner, .groupEnd, rest) => if inner = tag then some rest else none
    | some (inner, wire, rest) =>
      match skipRecord fuel depth inner wire rest with
      | none => none
      | some rest => skipGroup fuel depth tag rest

end

def skip (depth tag : Nat) (wire : WireType) (s : Bytes) : Option Bytes :=
  skipRecord (2 * s.length + 2) depth tag wire s

end PlaceGateway.Protobuf
