import PlaceGateway.Protobuf.Wire
import PlaceGateway.Row
/-! Protobuf messages: how the fields of a structure are written, measured and merged. A field at its
default is not written, and a message that is read starts from the defaults. -/

namespace PlaceGateway.Protobuf

structure Scalar (β : Type) where
  wire : WireType
  write : β → Bytes
  size : β → Nat
  read : Bytes → Option (β × Bytes)

namespace Scalar

def text : Scalar String where
  wire := .delimited
  write s := delimit (Bytes.ofText s)
  size s := varintSize s.utf8ByteSize + s.utf8ByteSize
  read s := do
    let (bytes, rest) ← readDelimited s
    return (← bytes.text?, rest)

def flag : Scalar Bool where
  wire := .varint
  write b := [if b then 1 else 0]
  size _ := 1
  read s := (readVarint s).map fun read => (read.1 != 0, read.2)

/-- The sign is extended to 64 bits, and the low 32 bits are read. -/
def int32 : Scalar Int32 where
  wire := .varint
  write i := varint (i.toInt % 2 ^ 64).toNat
  size i := varintSize (i.toInt % 2 ^ 64).toNat
  read s := (readVarint s).map fun read => (Int32.ofNat read.1, read.2)

def real : Scalar Binary64 where
  wire := .fixed64
  write x := littleEndian 8 x.bits.toNat
  size _ := 8
  read s := (readBytes 8 s).map fun read => (⟨UInt64.ofNat (ofLittleEndian read.1)⟩, read.2)

end Scalar

/-- How a member of a structure is written under a tag and merged from a record of that tag. -/
structure Field (β : Type) where
  absent : β
  write : Nat → β → Bytes
  size : Nat → β → Nat
  merge : Nat → WireType → β → Bytes → Option (β × Bytes)

structure Message (α : Type) where
  empty : α
  write : α → Bytes
  size : α → Nat
  mergeRecord : Nat → Nat → WireType → α → Bytes → Option (α × Bytes)

namespace Message

variable {α : Type}

def mergeRecords (m : Message α) (depth : Nat) : Nat → α → Bytes → Option α
  | _, a, [] => some a
  | 0, _, _ :: _ => none
  | fuel + 1, a, s@(_ :: _) =>
    match readKey s with
    | none => none
    | some (tag, wire, rest) =>
      match m.mergeRecord depth tag wire a rest with
      | none => none
      | some (a, rest) => m.mergeRecords depth fuel a rest

def merge (m : Message α) (depth : Nat) (a : α) (s : Bytes) : Option α :=
  m.mergeRecords depth s.length a s

def mergeDelimited (m : Message α) (depth : Nat) (a : α) (s : Bytes) : Option (α × Bytes) :=
  match depth with
  | 0 => none
  | depth + 1 => do
    let (body, rest) ← readDelimited s
    return (← m.merge depth a body, rest)

def maxDepth : Nat := 100

def read (m : Message α) (s : Bytes) : Option α := m.merge maxDepth m.empty s

def writeDelimited (m : Message α) (a : α) : Bytes := varint (m.size a) ++ m.write a

def readDelimited (m : Message α) (s : Bytes) : Option α :=
  (m.mergeDelimited maxDepth m.empty s).map Prod.fst

end Message

namespace Field

variable {α β : Type}

/-- The last record counts, and a value equal to the default has none. -/
def single (scalar : Scalar β) (absent : β) (isAbsent : β → Bool) : Field β where
  absent := absent
  write tag b := if isAbsent b then [] else key tag scalar.wire ++ scalar.write b
  size tag b := if isAbsent b then 0 else keySize tag + scalar.size b
  merge _ wire _ s := if wire = scalar.wire then scalar.read s else none

def text : Field String := single .text "" String.isEmpty

def flag : Field Bool := single .flag false (!·)

def int32 : Field Int32 := single .int32 0 (· == 0)

def real : Field Binary64 := single .real .zero Binary64.isZero

def texts : Field (List String) where
  absent := []
  write tag items := items.flatMap fun s => key tag .delimited ++ Scalar.text.write s
  size tag items := items.foldr (fun s n => keySize tag + Scalar.text.size s + n) 0
  merge _ wire items s :=
    if wire = .delimited then (Scalar.text.read s).map fun read => (items ++ [read.1], read.2) else none

def messageSize (m : Message α) (tag : Nat) (a : α) : Nat :=
  keySize tag + varintSize (m.size a) + m.size a

/-- A message that is there is written also when it is empty. Two records of it are merged. -/
def message (m : Message α) : Field (Option α) where
  absent := none
  write tag
    | none => []
    | some a => key tag .delimited ++ m.writeDelimited a
  size tag
    | none => 0
    | some a => messageSize m tag a
  merge depth wire a s :=
    if wire = .delimited then
      (m.mergeDelimited depth (a.getD m.empty) s).map fun read => (some read.1, read.2)
    else none

def messages (m : Message α) : Field (List α) where
  absent := []
  write tag items := items.flatMap fun a => key tag .delimited ++ m.writeDelimited a
  size tag items := items.foldr (fun a n => messageSize m tag a + n) 0
  merge depth wire items s :=
    if wire = .delimited then
      (m.mergeDelimited depth m.empty s).map fun read => (items ++ [read.1], read.2)
    else none

end Field

inductive Fields : List Type → Type 1 where
  | nil : Fields []
  | cons {t : Type} {ts : List Type} (tag : Nat) (field : Field t) (rest : Fields ts) :
      Fields (t :: ts)

namespace Fields

def absent : {ts : List Type} → Fields ts → Row ts
  | _, nil => ()
  | _, cons _ field rest => (field.absent, rest.absent)

def write : {ts : List Type} → Fields ts → Row ts → Bytes
  | _, nil, _ => []
  | _, cons tag field rest, (b, row) => field.write tag b ++ rest.write row

def size : {ts : List Type} → Fields ts → Row ts → Nat
  | _, nil, _ => 0
  | _, cons tag field rest, (b, row) => field.size tag b + rest.size row

/-- Records of tags that no column has are passed over. -/
def mergeRecord (depth : Nat) : {ts : List Type} → Fields ts → Nat → WireType → Row ts → Bytes →
    Option (Row ts × Bytes)
  | _, nil, tag, wire, row, s => (skip depth tag wire s).map fun rest => (row, rest)
  | _, cons own field rest, tag, wire, (b, row), s =>
    if own = tag then (field.merge depth wire b s).map fun read => ((read.1, row), read.2)
    else (rest.mergeRecord depth tag wire row s).map fun read => ((b, read.1), read.2)

end Fields

def Message.ofFields {α : Type} {ts : List Type} (columns : Columns α ts) (fields : Fields ts) :
    Message α where
  empty := columns.ofRow fields.absent
  write a := fields.write (columns.toRow a)
  size a := fields.size (columns.toRow a)
  mergeRecord depth tag wire a s :=
    (fields.mergeRecord depth tag wire (columns.toRow a) s).map fun read =>
      (columns.ofRow read.1, read.2)

end PlaceGateway.Protobuf
