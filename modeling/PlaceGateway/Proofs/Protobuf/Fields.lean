import Mathlib.Algebra.Order.BigOperators.Group.List
import PlaceGateway.Proofs.Protobuf.Records
/-! Fields are read back as they were written, up to values that are written like the default, and
so are messages made of fields with different tags. -/

namespace PlaceGateway.Protobuf

variable {α β : Type}

namespace Scalar

structure Lawful (scalar : Scalar β) : Prop where
  write_length : ∀ b, (scalar.write b).length = scalar.size b
  read_write : ∀ b after, scalar.size b < 2 ^ 64 → scalar.read (scalar.write b ++ after) = some (b, after)

theorem text_lawful : text.Lawful where
  write_length s := by
    change (delimit (Bytes.ofText s)).length = _
    rw [delimit, List.length_append, varint_length]
    rfl
  read_write s after fits := by
    have bound : (Bytes.ofText s).length < 2 ^ 64 := by
      change varintSize s.utf8ByteSize + s.utf8ByteSize < 2 ^ 64 at fits
      change s.utf8ByteSize < 2 ^ 64
      omega
    change (readDelimited (delimit (Bytes.ofText s) ++ after) >>= _) = _
    rw [readDelimited_delimit _ _ bound]
    simp only [bind, Option.bind, Bytes.text?_ofText]
    rfl

theorem flag_lawful : flag.Lawful where
  write_length _ := rfl
  read_write b after _ := by
    have varint_flag : flag.write b = varint (if b then 1 else 0) := by
      cases b <;> simp [flag, varint]
    rw [varint_flag]
    change (readVarint _).map _ = _
    rw [readVarint_varint _ (by split <;> omega)]
    cases b <;> rfl

theorem int32_lawful : int32.Lawful where
  write_length i := varint_length _
  read_write i after _ := by
    have positive : 0 ≤ i.toInt % 2 ^ 64 := Int.emod_nonneg _ (by decide)
    have bound : i.toInt % 2 ^ 64 < 2 ^ 64 := Int.emod_lt_of_pos _ (by decide)
    change (readVarint (varint _ ++ after)).map _ = _
    rw [readVarint_varint _ (by omega), Option.map_some, Option.some.injEq, Prod.mk.injEq]
    refine ⟨?_, rfl⟩
    apply Int32.toInt_inj.mp
    rw [Int32.toInt_ofNat']
    have low := i.le_toInt
    have high := i.toInt_lt
    rw [Int.toNat_of_nonneg positive, Int.bmod_def]
    simp only [Int32.size] at *
    split <;> omega

theorem real_lawful : real.Lawful where
  write_length x := littleEndian_length 8 _
  read_write x after _ := by
    have eight := littleEndian_length 8 x.bits.toNat
    have bound : x.bits.toNat < 256 ^ 8 := x.bits.toNat_lt
    have split : readBytes 8 (littleEndian 8 x.bits.toNat ++ after) =
        some (littleEndian 8 x.bits.toNat, after) := by
      rw [← eight]
      exact readBytes_append (littleEndian 8 x.bits.toNat) after
    simp only [real]
    rw [split, Option.map_some, ofLittleEndian_littleEndian _ _ bound, UInt64.ofNat_toNat]

end Scalar

/-- The records that a value is written as merge into the canonical form of the value. -/
structure Field.Lawful (field : Field β) (height : Nat) (canonical : β → β) : Prop where
  write_length : ∀ tag b, ValidTag tag → (field.write tag b).length = field.size tag b
  exists_records : ∀ tag depth b, height ≤ depth → field.size tag b < 2 ^ 64 →
    ∃ records, (∀ r ∈ records, r.tag = tag) ∧ field.write tag b = records.flatMap Record.bytes ∧
      Merges (fun _ => field.merge depth) field.absent records (canonical b)

namespace Field

theorem Lawful.mono {field : Field β} {low high : Nat} {canonical : β → β}
    (lawful : field.Lawful low canonical) (le : low ≤ high) : field.Lawful high canonical where
  write_length := lawful.write_length
  exists_records tag depth b deep := lawful.exists_records tag depth b (Nat.le_trans le deep)

theorem single_lawful {scalar : Scalar β} (lawful : scalar.Lawful) (absent : β) (isAbsent : β → Bool) :
    (single scalar absent isAbsent).Lawful 0 fun b => if isAbsent b then absent else b where
  write_length tag b valid := by
    simp only [single]
    split
    · rfl
    · rw [List.length_append, key_length _ _ valid.1, lawful.write_length]
  exists_records tag depth b _ fits := by
    simp only [single] at fits ⊢
    split
    · exact ⟨[], by simp, rfl, rfl⟩
    · rename_i present
      rw [if_neg present] at fits
      refine ⟨[⟨tag, scalar.wire, scalar.write b⟩], by simp, by simp [Record.bytes], b, ?_, rfl⟩
      intro after
      dsimp only
      rw [if_pos rfl]
      exact lawful.read_write b after (by omega)

theorem text_lawful : text.Lawful 0 id := by
  have same : (fun s : String => if s.isEmpty then "" else s) = id := by
    funext s
    by_cases empty : s = "" <;> simp [empty]
  rw [← same]
  exact single_lawful Scalar.text_lawful "" String.isEmpty

theorem flag_lawful : flag.Lawful 0 id := by
  have same : (fun b : Bool => if !b then false else b) = id := by
    funext b
    cases b <;> rfl
  rw [← same]
  exact single_lawful Scalar.flag_lawful false _

theorem int32_lawful : int32.Lawful 0 id := by
  have same : (fun i : Int32 => if i == 0 then 0 else i) = id := by
    funext i
    by_cases zero : i = 0 <;> simp [zero]
  rw [← same]
  exact single_lawful Scalar.int32_lawful 0 _

theorem real_lawful : real.Lawful 0 Binary64.unsignZero :=
  single_lawful Scalar.real_lawful .zero Binary64.isZero

theorem items_records (merge : Nat → WireType → List β → Bytes → Option (List β × Bytes))
    (canonical : β → β) (record : β → Record) (items before : List β)
    (step : ∀ b ∈ items, ∀ front after,
      merge (record b).tag (record b).wire front ((record b).body ++ after) =
        some (front ++ [canonical b], after)) :
    Merges merge before (items.map record) (before ++ items.map canonical) := by
  induction items generalizing before with
  | nil => exact (List.append_nil before).symm
  | cons b rest ih =>
      refine ⟨before ++ [canonical b], step b List.mem_cons_self before, ?_⟩
      have later := ih (before ++ [canonical b]) fun b' member => step b' (List.mem_cons_of_mem _ member)
      simpa using later

theorem foldr_eq_sum (size : β → Nat) (items : List β) :
    items.foldr (fun b n => size b + n) 0 = (items.map size).sum := by
  rw [List.sum_eq_foldr, List.foldr_map]

theorem texts_lawful : texts.Lawful 0 id where
  write_length tag items valid := by
    have each (s : String) : (key tag .delimited ++ Scalar.text.write s).length = keySize tag + Scalar.text.size s := by
      rw [List.length_append, key_length _ _ valid.1, Scalar.text_lawful.write_length]
    simp only [texts, foldr_eq_sum, List.length_flatMap, each]
  exists_records tag depth items _ fits := by
    refine ⟨items.map fun s => ⟨tag, .delimited, Scalar.text.write s⟩, by simp, ?_, ?_⟩
    · simp [texts, List.flatMap_map, Record.bytes]
    · have merged := items_records (fun _ => texts.merge depth) id
        (fun s => ⟨tag, .delimited, Scalar.text.write s⟩) items [] ?_
      · rwa [List.nil_append, List.map_id] at merged
      · intro s member front after
        have part := List.le_sum_of_mem (List.mem_map_of_mem (f := fun s => keySize tag + Scalar.text.size s) member)
        simp only [texts, foldr_eq_sum] at fits
        simp only [texts, if_true]
        rw [Scalar.text_lawful.read_write s after (by omega)]
        rfl

variable {m : Message α} {height : Nat} {canonical : α → α}

theorem message_lawful (lawful : m.Lawful height canonical) :
    (message m).Lawful (height + 1) (Option.map canonical) where
  write_length tag item valid := by
    cases item with
    | none => rfl
    | some a =>
        simp only [message, messageSize]
        rw [List.length_append, key_length _ _ valid.1, Message.writeDelimited_length lawful]
        omega
  exists_records tag depth item deep fits := by
    cases item with
    | none => exact ⟨[], by simp, rfl, rfl⟩
    | some a =>
        refine ⟨[⟨tag, .delimited, m.writeDelimited a⟩], by simp, by simp [message, Record.bytes],
          some (canonical a), ?_, rfl⟩
        intro after
        simp only [message, messageSize] at fits
        simp only [message, if_true, Option.getD_none]
        rw [lawful.mergeDelimited deep a (by omega)]
        rfl

theorem messages_lawful (lawful : m.Lawful height canonical) :
    (messages m).Lawful (height + 1) (List.map canonical) where
  write_length tag items valid := by
    have each (a : α) : (key tag .delimited ++ m.writeDelimited a).length = messageSize m tag a := by
      rw [List.length_append, key_length _ _ valid.1, Message.writeDelimited_length lawful, messageSize]
      omega
    simp only [messages, foldr_eq_sum, List.length_flatMap, each]
  exists_records tag depth items deep fits := by
    refine ⟨items.map fun a => ⟨tag, .delimited, m.writeDelimited a⟩, by simp, ?_, ?_⟩
    · simp [messages, List.flatMap_map, Record.bytes]
    · have merged := items_records (fun _ => (messages m).merge depth) canonical
        (fun a => ⟨tag, .delimited, m.writeDelimited a⟩) items [] ?_
      · exact merged
      · intro a member front after
        have part := List.le_sum_of_mem (List.mem_map_of_mem (f := messageSize m tag) member)
        simp only [messages, foldr_eq_sum] at fits
        rw [messageSize] at part
        simp only [messages, if_true]
        rw [lawful.mergeDelimited deep a (by omega)]
        rfl

end Field

namespace Fields

def tags : {ts : List Type} → Fields ts → List Nat
  | _, nil => []
  | _, cons tag _ rest => tag :: rest.tags

inductive Lawful (height : Nat) : {ts : List Type} → Fields ts → (Row ts → Row ts) → Prop where
  | nil : Lawful height nil id
  | cons {t : Type} {ts : List Type} {tag : Nat} {field : Field t} {rest : Fields ts}
      {canonical : t → t} {canonicals : Row ts → Row ts}
      (lawful : field.Lawful height canonical) (later : Lawful height rest canonicals) :
      Lawful height (cons tag field rest) fun row => (canonical row.1, canonicals row.2)

variable {ts : List Type} {fields : Fields ts} {height : Nat} {canonical : Row ts → Row ts}

theorem Lawful.write_length (lawful : fields.Lawful height canonical)
    (valid : ∀ tag ∈ fields.tags, ValidTag tag) (row : Row ts) :
    (fields.write row).length = fields.size row := by
  induction lawful with
  | nil => rfl
  | cons lawful later ih =>
      rw [write, List.length_append, lawful.write_length _ _ (valid _ List.mem_cons_self),
        ih (fun tag member => valid tag (List.mem_cons_of_mem _ member)) row.2]
      rfl

theorem Lawful.exists_records (lawful : fields.Lawful height canonical) (distinct : fields.tags.Nodup)
    (depth : Nat) (deep : height ≤ depth) (row : Row ts) (fits : fields.size row < 2 ^ 64) :
    ∃ records, (∀ r ∈ records, r.tag ∈ fields.tags) ∧
      fields.write row = records.flatMap Record.bytes ∧
      Merges (fields.mergeRecord depth) fields.absent records (canonical row) := by
  induction lawful with
  | nil => exact ⟨[], by simp, rfl, rfl⟩
  | @cons t ts tag field rest c cs lawful later ih =>
      obtain ⟨fresh, distinct⟩ := List.nodup_cons.mp distinct
      have parts : field.size tag row.1 + rest.size row.2 < 2 ^ 64 := fits
      obtain ⟨own, ownTags, ownBytes, ownMerges⟩ :=
        lawful.exists_records tag depth row.1 deep (by omega)
      obtain ⟨others, otherTags, otherBytes, otherMerges⟩ := ih distinct row.2 (by omega)
      refine ⟨own ++ others, ?_, ?_, ?_⟩
      · intro r member
        rcases List.mem_append.mp member with here | there
        · exact List.mem_cons.mpr (.inl (ownTags r here))
        · exact List.mem_cons_of_mem _ (otherTags r there)
      · rw [List.flatMap_append, ← ownBytes, ← otherBytes]
        rfl
      -- Records of one field leave the rest of the row alone, so the two merges follow one another.
      · have first := ownMerges.lift ((Fields.cons tag field rest).mergeRecord depth)
          (fun b => (b, rest.absent)) ?_
        · have second := otherMerges.lift ((Fields.cons tag field rest).mergeRecord depth)
            (fun row' => (c row.1, row')) ?_
          · exact first.append second
          · intro r member row' s
            have other : tag ≠ r.tag := fun same => fresh (same ▸ otherTags r member)
            simp only [mergeRecord, if_neg other]
        · intro r member b s
          simp only [mergeRecord, if_pos (ownTags r member).symm]

end Fields

theorem Message.ofFields_lawful {ts : List Type} {fields : Fields ts} {height : Nat}
    {canonical : Row ts → Row ts} (columns : Columns α ts) (lawful : fields.Lawful height canonical)
    (distinct : fields.tags.Nodup) (valid : ∀ tag ∈ fields.tags, ValidTag tag) :
    (Message.ofFields columns fields).Lawful height fun a =>
      columns.ofRow (canonical (columns.toRow a)) where
  write_length a := lawful.write_length valid (columns.toRow a)
  merge_write depth a deep fits := by
    obtain ⟨records, tags, bytes, merges⟩ :=
      lawful.exists_records distinct depth deep (columns.toRow a) fits
    have read := merges.lift ((Message.ofFields columns fields).mergeRecord depth)
      columns.ofRow ?_
    · have written : (Message.ofFields columns fields).write a = records.flatMap Record.bytes := bytes
      rw [Message.merge, written]
      exact mergeRecords_of_merges read (fun r member => valid _ (tags r member)) _
        (length_le_bytes records)
    · intro r _ row s
      simp only [Message.ofFields, columns.toRow_ofRow]

end PlaceGateway.Protobuf
