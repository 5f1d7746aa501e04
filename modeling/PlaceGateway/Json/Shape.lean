import PlaceGateway.Json.Draft
import PlaceGateway.Json.Value
import PlaceGateway.Row
/-! Shapes: how values of a type are written as JSON and read from a draft of it. -/

namespace PlaceGateway.Json

structure Shape (α : Type) where
  absent : α
  write : α → Json
  read : Draft → Except Fault α

namespace Shape

variable {α : Type}

def text : Shape String where
  absent := ""
  write := .text
  read
    | .text (some s) => .ok s
    | d => .error d.mismatch

def flag : Shape Bool where
  absent := false
  write := .flag
  read
    | .flag b => .ok b
    | d => .error d.mismatch

def int32 : Shape Int32 where
  absent := 0
  write i := .integer i.toInt
  read d :=
    match d with
    | .number n =>
      match n.number? with
      | some (.integer i) =>
        if Int32.minValue.toInt ≤ i ∧ i ≤ Int32.maxValue.toInt then .ok (Int32.ofInt i)
        else .error .mistyped
      | _ => .error d.mismatch
    | d => .error d.mismatch

def real : Shape Binary64 where
  absent := .zero
  write := .real
  read d :=
    match d with
    | .number n =>
      match n.number? with
      | some (.integer i) => .ok (.ofInt i)
      | some (.real x) => .ok x
      | none => .error .malformed
    | d => .error d.mismatch

def optional (shape : Shape α) : Shape (Option α) where
  absent := none
  write
    | none => .null
    | some a => shape.write a
  read
    | .null => .ok none
    | d => (shape.read d).map some

def readAll (shape : Shape α) : List Draft → Except Fault (List α)
  | [] => .ok []
  | d :: rest => do
    let a ← shape.read d
    return a :: (← readAll shape rest)

def list (shape : Shape α) : Shape (List α) where
  absent := []
  write items := .list (items.map shape.write)
  read
    | .list items ending => do
      let values ← shape.readAll items
      match ending with
      | none => return values
      | some fault => throw fault
    | d => .error d.mismatch

/-- A value written by its name. It is read from the name, or from the record of that name and `null`. -/
def named (absent : α) (name : α → String) (ofName? : String → Option α) : Shape α where
  absent := absent
  write a := .text (name a)
  read
    | .text none => .error .malformed
    | .text (some s) =>
      match ofName? s with
      | some a => .ok a
      | none => .error .mistyped
    | .record [] ending => .error ((ending.map Break.named).getD .malformed)
    | .record ((none, _) :: _) _ => .error .malformed
    | .record ((some s, value) :: more) ending =>
      match ofName? s with
      | none => .error .mistyped
      | some a =>
        match value with
        | .null =>
          match more, ending with
          | [], none => .ok a
          | [], some fault => .error fault.named
          | _ :: _, _ => .error .malformed
        | d => .error d.mismatch
    | .broken fault => .error fault.named
    | _ => .error .malformed

end Shape

inductive Members : List Type → Type 1 where
  | nil : Members []
  | cons {t : Type} {ts : List Type} (name : String) (shape : Shape t) (rest : Members ts) :
      Members (t :: ts)

namespace Members

def absent : {ts : List Type} → Members ts → Row ts
  | _, nil => ()
  | _, cons _ shape rest => (shape.absent, rest.absent)

def write : {ts : List Type} → Members ts → Row ts → List (String × Json)
  | _, nil, _ => []
  | _, cons name shape rest, (a, row) => (name, shape.write a) :: rest.write row

/-- Reads one member into its slot. A second one of that name is refused, and one of no known name
is passed over. -/
def put : {ts : List Type} → Members ts → String → Draft → Slots ts → Except Fault (Slots ts)
  | _, nil, _, d, slots =>
    match d.passFault? with
    | none => .ok slots
    | some fault => .error fault
  | _, cons name shape rest, key, d, (slot, slots) =>
    if name = key then
      match slot with
      | some _ => .error .mistyped
      | none => (shape.read d).map fun a => (some a, slots)
    else (rest.put key d slots).map fun slots => (slot, slots)

def putAll {ts : List Type} (members : Members ts) :
    List (Option String × Draft) → Slots ts → Except Fault (Slots ts)
  | [], slots => .ok slots
  | (none, _) :: _, _ => .error .malformed
  | (some key, d) :: rest, slots => do members.putAll rest (← members.put key d slots)

def fill : {ts : List Type} → Members ts → Slots ts → Row ts
  | _, nil, _ => ()
  | _, cons _ shape rest, (slot, slots) => (slot.getD shape.absent, rest.fill slots)

def readItems : {ts : List Type} → Members ts → List Draft → Option Fault → Except Fault (Row ts)
  | _, nil, [], none => .ok ()
  | _, nil, [], some fault => .error fault
  | _, nil, _ :: _, _ => .error .malformed
  | _, members@(cons ..), [], none => .ok members.absent
  | _, cons .., [], some fault => .error fault
  | _, cons _ shape rest, d :: ds, ending => do
    let a ← shape.read d
    return (a, ← rest.readItems ds ending)

def read {ts : List Type} (members : Members ts) : Draft → Except Fault (Row ts)
  | .record found ending => do
    let slots ← members.putAll found (Slots.none ts)
    match ending with
    | none => return members.fill slots
    | some fault => throw fault.read
  | .list items ending => members.readItems items ending
  | d => .error d.mismatch

end Members

/-- A structure written as a record of all its columns. A list of them in order is read too. -/
def Shape.record {α : Type} {ts : List Type} (columns : Columns α ts) (members : Members ts) :
    Shape α where
  absent := columns.ofRow members.absent
  write a := .record (members.write (columns.toRow a))
  read d := (members.read d).map columns.ofRow

def Shape.readFront {α : Type} (shape : Shape α) (s : Bytes) : Except Fault α :=
  shape.read (Draft.ofBytes s).1

def Shape.readDocument {α : Type} (shape : Shape α) (s : Bytes) : Except Fault α := do
  let (draft, rest) := Draft.ofBytes s
  let a ← shape.read draft
  if Draft.skipBlank (rest.getD []) = [] then return a else throw .malformed

end PlaceGateway.Json
