import PlaceGateway.Proofs.Protobuf.Wire
import PlaceGateway.Protobuf.Message
/-! A message is a run of records, and reading it merges them one after the other. -/

namespace PlaceGateway.Protobuf

structure Record where
  tag : Nat
  wire : WireType
  body : Bytes

def Record.bytes (r : Record) : Bytes := key r.tag r.wire ++ r.body

variable {α β : Type}

/-- Merging the records one after the other takes the first value to the second, whatever follows
each of them. -/
def Merges (merge : Nat → WireType → β → Bytes → Option (β × Bytes)) : β → List Record → β → Prop
  | b, [], b' => b = b'
  | b, r :: rest, b' => ∃ next,
      (∀ after, merge r.tag r.wire b (r.body ++ after) = some (next, after)) ∧
      Merges merge next rest b'

theorem Merges.append {merge : Nat → WireType → β → Bytes → Option (β × Bytes)} {b b' b'' : β}
    {front back : List Record} (first : Merges merge b front b') (second : Merges merge b' back b'') :
    Merges merge b (front ++ back) b'' := by
  induction front generalizing b with
  | nil =>
      cases first
      exact second
  | cons r rest ih =>
      obtain ⟨next, step, later⟩ := first
      exact ⟨next, step, ih later⟩

theorem Merges.lift {inner : Nat → WireType → α → Bytes → Option (α × Bytes)}
    (outer : Nat → WireType → β → Bytes → Option (β × Bytes)) (f : α → β) {a a' : α}
    {records : List Record} (merges : Merges inner a records a')
    (commutes : ∀ r ∈ records, ∀ a s,
      outer r.tag r.wire (f a) s = (inner r.tag r.wire a s).map fun read => (f read.1, read.2)) :
    Merges outer (f a) records (f a') := by
  induction records generalizing a with
  | nil =>
      cases merges
      rfl
  | cons r rest ih =>
      obtain ⟨next, step, later⟩ := merges
      refine ⟨f next, ?_, ih later fun r' member => commutes r' (List.mem_cons_of_mem _ member)⟩
      intro after
      rw [commutes r List.mem_cons_self, step after]
      rfl

def ValidTag (tag : Nat) : Prop := 0 < tag ∧ tag < 2 ^ 29

instance (tag : Nat) : Decidable (ValidTag tag) := inferInstanceAs (Decidable (_ ∧ _))

theorem record_bytes_length (r : Record) : 1 ≤ r.bytes.length := by
  have := List.length_pos_of_ne_nil (key_ne_nil r.tag r.wire)
  rw [Record.bytes, List.length_append]
  omega

theorem length_le_bytes (records : List Record) :
    records.length ≤ (records.flatMap Record.bytes).length := by
  induction records with
  | nil => exact Nat.zero_le _
  | cons r rest ih =>
      have := record_bytes_length r
      rw [List.flatMap_cons, List.length_append, List.length_cons]
      omega

namespace Message

variable {m : Message α}

theorem mergeRecords_record (depth fuel : Nat) (a : α) (r : Record) (valid : ValidTag r.tag)
    (after : Bytes) :
    m.mergeRecords depth (fuel + 1) a (r.bytes ++ after) =
      (m.mergeRecord depth r.tag r.wire a (r.body ++ after)).bind fun read =>
        m.mergeRecords depth fuel read.1 read.2 := by
  have read := readKey_key r.tag r.wire valid.1 valid.2 (r.body ++ after)
  rw [← List.append_assoc] at read
  change readKey (r.bytes ++ after) = _ at read
  have present := record_bytes_length r
  cases written : r.bytes ++ after with
  | nil =>
      have := congrArg List.length written
      rw [List.length_append, List.length_nil] at this
      omega
  | cons byte rest =>
      rw [mergeRecords, ← written, read]
      cases step : m.mergeRecord depth r.tag r.wire a (r.body ++ after) <;> simp only [step] <;> rfl

theorem mergeRecords_of_merges {depth : Nat} {a a' : α} {records : List Record}
    (merges : Merges (m.mergeRecord depth) a records a') (valid : ∀ r ∈ records, ValidTag r.tag)
    (fuel : Nat) (enough : records.length ≤ fuel) :
    m.mergeRecords depth fuel a (records.flatMap Record.bytes) = some a' := by
  induction records generalizing a fuel with
  | nil =>
      cases merges
      cases fuel <;> rfl
  | cons r rest ih =>
      obtain ⟨next, step, later⟩ := merges
      obtain ⟨fuel, rfl⟩ : ∃ left, fuel = left + 1 := ⟨fuel - 1, by simp at enough; omega⟩
      rw [List.flatMap_cons, mergeRecords_record _ _ _ _ (valid r List.mem_cons_self), step]
      exact ih later (fun r' member => valid r' (List.mem_cons_of_mem _ member)) fuel
        (by simpa using enough)

/-- What is written has the size that is told, and is read as the canonical form of the value
wherever messages may nest `height` levels deep. -/
structure Lawful (m : Message α) (height : Nat) (canonical : α → α) : Prop where
  write_length : ∀ a, (m.write a).length = m.size a
  merge_write : ∀ depth a, height ≤ depth → m.size a < 2 ^ 64 →
    m.merge depth m.empty (m.write a) = some (canonical a)

theorem Lawful.congr {height : Nat} {canonical canonical' : α → α}
    (same : ∀ a, canonical a = canonical' a) (lawful : m.Lawful height canonical) :
    m.Lawful height canonical' where
  write_length := lawful.write_length
  merge_write depth a deep fits := by rw [lawful.merge_write depth a deep fits, same]

theorem Lawful.mergeDelimited {height : Nat} {canonical : α → α} (lawful : m.Lawful height canonical)
    {depth : Nat} (deep : height < depth) (a : α) (fits : m.size a < 2 ^ 64) (after : Bytes) :
    m.mergeDelimited depth m.empty (m.writeDelimited a ++ after) = some (canonical a, after) := by
  obtain ⟨depth, rfl⟩ : ∃ lower, depth = lower + 1 := ⟨depth - 1, by omega⟩
  have size := lawful.write_length a
  have delimited : m.writeDelimited a = delimit (m.write a) := by
    rw [writeDelimited, delimit, size]
  rw [Message.mergeDelimited, delimited, readDelimited_delimit _ _ (by omega)]
  simp only [bind, Option.bind, lawful.merge_write depth a (by omega) fits]
  rfl

theorem writeDelimited_length {height : Nat} {canonical : α → α} (lawful : m.Lawful height canonical)
    (a : α) : (m.writeDelimited a).length = varintSize (m.size a) + m.size a := by
  rw [writeDelimited, List.length_append, varint_length, lawful.write_length]

end Message

end PlaceGateway.Protobuf
