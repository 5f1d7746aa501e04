import PlaceGateway.Place.Protobuf
import PlaceGateway.Proofs.Protobuf.Fields
/-! A payload is read back from its cache entry as it was written, with each negative zero made
positive. -/

namespace PlaceGateway

open Protobuf (Field Message varint_length varintSize)

def Coordinates.unsignZeros (c : Coordinates) : Coordinates :=
  ⟨c.latitude.unsignZero, c.longitude.unsignZero⟩

namespace Place

def unsignZeros (p : Place) : Place :=
  { p with
    location := p.location.map Coordinates.unsignZeros
    rating := p.rating.unsignZero }

theorem localizedText_lawful : localizedTextMessage.Lawful 0 id :=
  Message.ofFields_lawful LocalizedText.columns
    (.cons Field.text_lawful <| .cons Field.text_lawful .nil) (by decide) (by decide)

theorem coordinates_lawful : coordinatesMessage.Lawful 0 Coordinates.unsignZeros :=
  Message.ofFields_lawful Coordinates.columns
    (.cons Field.real_lawful <| .cons Field.real_lawful .nil) (by decide) (by decide)

theorem openingHours_lawful : openingHoursMessage.Lawful 0 id :=
  Message.ofFields_lawful OpeningHours.columns
    (.cons Field.flag_lawful <| .cons Field.texts_lawful .nil) (by decide) (by decide)

theorem photo_lawful : photoMessage.Lawful 0 id :=
  Message.ofFields_lawful Photo.columns
    (.cons Field.text_lawful <| .cons Field.int32_lawful <| .cons Field.int32_lawful <|
      .cons Field.texts_lawful .nil) (by decide) (by decide)

theorem attribution_lawful : attributionMessage.Lawful 0 id :=
  Message.ofFields_lawful Attribution.columns
    (.cons Field.text_lawful <| .cons Field.text_lawful .nil) (by decide) (by decide)

theorem beside_messages {β : Type} {field : Protobuf.Field β} {canonical : β → β}
    (lawful : field.Lawful 0 canonical) : field.Lawful 1 canonical :=
  lawful.mono (Nat.zero_le 1)

theorem message_lawful : message.Lawful 1 unsignZeros := by
  have text := beside_messages Field.text_lawful
  have texts := beside_messages Field.texts_lawful
  have flag := beside_messages Field.flag_lawful
  have int32 := beside_messages Field.int32_lawful
  have real := beside_messages Field.real_lawful
  have localizedText := Field.message_lawful localizedText_lawful
  have coordinates := Field.message_lawful coordinates_lawful
  have openingHours := Field.message_lawful openingHours_lawful
  have photos := Field.messages_lawful photo_lawful
  have attributions := Field.messages_lawful attribution_lawful
  refine Message.Lawful.congr ?_ (Message.ofFields_lawful Place.columns
    (.cons text <| .cons text <| .cons localizedText <| .cons texts <| .cons text <|
      .cons localizedText <| .cons text <| .cons text <| .cons text <| .cons text <|
      .cons coordinates <| .cons real <| .cons text <| .cons text <| .cons int32 <|
      .cons int32 <| .cons int32 <| .cons int32 <| .cons openingHours <| .cons localizedText <|
      .cons text <| .cons text <| .cons text <| .cons photos <| .cons attributions <|
      .cons flag <| .cons flag <| .cons flag <| .cons flag <| .cons flag <| .cons flag <|
      .cons flag <| .cons flag <| .cons flag <| .cons flag <| .cons flag <| .cons flag <|
      .cons flag <| .cons flag <| .cons flag <| .cons flag <| .cons flag <| .cons flag <|
      .cons flag <| .cons flag <| .cons flag <| .cons flag <| .cons flag <| .cons flag .nil)
    (by decide) (by decide))
  intro p
  simp only [Place.columns, unsignZeros, Option.map_id, List.map_id, id]

end Place

def SearchResult.unsignZeros (r : SearchResult) : SearchResult := ⟨r.places.map Place.unsignZeros⟩

theorem SearchResult.message_lawful : SearchResult.message.Lawful 2 SearchResult.unsignZeros :=
  Message.ofFields_lawful SearchResult.columns
    (.cons (Field.messages_lawful Place.message_lawful) .nil) (by decide) (by decide)

namespace Payload

def unsignZeros : Payload → Payload
  | place p => .place p.unsignZeros
  | search r => .search r.unsignZeros

theorem readDelimited_writeDelimited {α : Type} {m : Message α} {height : Nat} {canonical : α → α}
    (lawful : m.Lawful height canonical) (low : height < Message.maxDepth) (a : α)
    (fits : m.size a < 2 ^ 64) (after : Bytes) :
    m.readDelimited (m.writeDelimited a ++ after) = some (canonical a) := by
  rw [Message.readDelimited, lawful.mergeDelimited low a fits after]
  rfl

theorem decode?_encode_append (p : Payload) (fits : p.size < 2 ^ 64) (after : Bytes) :
    decode? p.kind (p.encode ++ after) = some p.unsignZeros := by
  cases p with
  | place p =>
      change (Place.message.readDelimited (Place.message.writeDelimited p ++ after)).map place = _
      rw [readDelimited_writeDelimited Place.message_lawful (by decide) p fits]
      rfl
  | search r =>
      change (SearchResult.message.readDelimited (SearchResult.message.writeDelimited r ++ after)).map
        search = _
      rw [readDelimited_writeDelimited SearchResult.message_lawful (by decide) r fits]
      rfl

theorem decode?_encode {p : Payload} {kind : PayloadKind} (own : p.kind = kind) (fits : p.size < sizeLimit) :
    decode? kind p.encode = some p.unsignZeros := by
  have back := p.decode?_encode_append (Nat.lt_trans fits (by decide)) []
  rwa [List.append_nil, own] at back

theorem encode_ne_nil (p : Payload) : p.encode ≠ [] := by
  have delimited {α : Type} (m : Message α) (a : α) : m.writeDelimited a ≠ [] := by
    intro empty
    have length := congrArg List.length empty
    rw [Message.writeDelimited, List.length_append, varint_length, varintSize, List.length_nil]
      at length
    omega
  cases p with
  | place p => exact delimited _ p
  | search r => exact delimited _ r

end Payload

end PlaceGateway
