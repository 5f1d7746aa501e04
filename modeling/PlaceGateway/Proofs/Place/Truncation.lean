import PlaceGateway.Fetch
import PlaceGateway.Proofs.Place.RoundTrip
/-! Encodings end themselves: what follows one changes nothing, and nothing is read from a part of one. -/

namespace PlaceGateway.Payload

open Protobuf (Message delimit readDelimited_of_truncated)

theorem mergeDelimited_unread {α : Type} (m : Message α) (depth : Nat) (a : α) {s : Bytes}
    (unread : Protobuf.readDelimited s = none) : m.mergeDelimited depth a s = none := by
  cases depth with
  | zero => rfl
  | succ depth =>
      rw [Message.mergeDelimited, unread]
      rfl

theorem readDelimited_truncated {α β : Type} {m : Message α} {height : Nat} {canonical : α → α}
    (lawful : m.Lawful height canonical) (reader : Message β) (a : α) (fits : m.size a < 2 ^ 64)
    {front missing : Bytes} (part : front ++ missing = m.writeDelimited a) (cut : missing ≠ []) :
    reader.readDelimited front = none := by
  have length := lawful.write_length a
  have delimited : front ++ missing = delimit (m.write a) := by
    rw [part, Message.writeDelimited, delimit, length]
  have unread := readDelimited_of_truncated (length ▸ fits) delimited cut
  rw [Message.readDelimited, mergeDelimited_unread reader _ _ unread, Option.map_none]

theorem decode?_truncated (p : Payload) (fits : p.size < 2 ^ 64) {front missing : Bytes}
    (part : front ++ missing = p.encode) (cut : missing ≠ []) (kind : PayloadKind) :
    decode? kind front = none := by
  have unread {β : Type} (reader : Message β) : reader.readDelimited front = none := by
    cases p with
    | place p => exact readDelimited_truncated Place.message_lawful reader p fits part cut
    | search r => exact readDelimited_truncated SearchResult.message_lawful reader r fits part cut
  cases kind with
  | place => rw [decode?, unread, Option.map_none]
  | search => rw [decode?, unread, Option.map_none]

/-- A payload is read back from the beginning of any bytes that its encoding begins, with each negative
zero made positive. Nothing at all is read from an encoding whose end is missing, so that whoever looks
for a payload where there is such an entry misses. -/
theorem encoding_ends_itself (p : Payload) (fits : p.size < 2 ^ 64) :
    (∀ after, decode? p.kind (p.encode ++ after) = some p.unsignZeros) ∧
    ∀ front missing, front ++ missing = p.encode → missing ≠ [] → ∀ kind,
      decode? kind front = none ∧
      ∀ (s : Fetch.State) (key : String),
        (s.find key kind (.answered (some front))).2 = none ∧
        ((s.store.get s.now key).2 = some front → (s.find key kind .actual).2 = none) := by
  refine ⟨p.decode?_encode_append fits, ?_⟩
  intro front missing part cut kind
  have unread := p.decode?_truncated fits part cut kind
  have missed : (ValueStore.found (.ok (some front))).bind (decode? kind) = none := by
    rw [ValueStore.found]
    split
    · rfl
    · exact unread
  refine ⟨unread, fun s key => ⟨missed, fun stored => ?_⟩⟩
  change (ValueStore.found (.ok (s.store.get s.now key).2)).bind (decode? kind) = none
  rw [stored]
  exact missed

def oddPlace : Place :=
  { (default : Place) with
    name := "places/ü"
    displayName := some ⟨"", ""⟩
    location := some ⟨⟨0x8000000000000000⟩, ⟨0x7FF8000000000000⟩⟩
    rating := ⟨0x8000000000000000⟩
    businessStatus := 99
    utcOffsetMinutes := -480
    currentOpeningHours := some ⟨false, []⟩
    photos := [⟨"", -1, 0, [""]⟩]
    pureServiceAreaBusiness := true }

theorem encoding_ends_itself_of_oddPlace :
    (search ⟨[oddPlace, default]⟩).size < 2 ^ 64 ∧
    decode? .search ((search ⟨[oddPlace, default]⟩).encode ++ [0, 255]) = some (search
      ⟨[{ oddPlace with location := some ⟨.zero, ⟨0x7FF8000000000000⟩⟩, rating := .zero }, default]⟩) ∧
    ∀ count < (search ⟨[oddPlace, default]⟩).encode.length,
      decode? .place ((search ⟨[oddPlace, default]⟩).encode.take count) = none := by
  have fits : (search ⟨[oddPlace, default]⟩).size < 2 ^ 64 := by decide +kernel
  obtain ⟨whole, parts⟩ := encoding_ends_itself (search ⟨[oddPlace, default]⟩) fits
  have read : (search ⟨[oddPlace, default]⟩).unsignZeros = search
      ⟨[{ oddPlace with location := some ⟨.zero, ⟨0x7FF8000000000000⟩⟩, rating := .zero }, default]⟩ := by
    decide +kernel
  refine ⟨fits, read ▸ whole [0, 255], ?_⟩
  intro count early
  have cut : (search ⟨[oddPlace, default]⟩).encode.drop count ≠ [] := by
    rw [Ne, List.drop_eq_nil_iff]
    omega
  exact (parts _ _ (List.take_append_drop count _) cut .place).1

end PlaceGateway.Payload
