import PlaceGateway.Place
import PlaceGateway.Protobuf.Message
/-! Places and search results as protobuf messages, the form in which the cache holds them. -/

namespace PlaceGateway

open Protobuf (Message)

namespace Place

def localizedTextMessage : Message LocalizedText :=
  .ofFields LocalizedText.columns <| .cons 1 .text <| .cons 2 .text .nil

def coordinatesMessage : Message Coordinates :=
  .ofFields Coordinates.columns <| .cons 1 .real <| .cons 2 .real .nil

def openingHoursMessage : Message OpeningHours :=
  .ofFields OpeningHours.columns <| .cons 1 .flag <| .cons 2 .texts .nil

def photoMessage : Message Photo :=
  .ofFields Photo.columns <| .cons 1 .text <| .cons 2 .int32 <| .cons 3 .int32 <| .cons 4 .texts .nil

def attributionMessage : Message Attribution :=
  .ofFields Attribution.columns <| .cons 1 .text <| .cons 2 .text .nil

def message : Message Place :=
  .ofFields columns <|
    .cons 1 .text <|
    .cons 2 .text <|
    .cons 3 (.message localizedTextMessage) <|
    .cons 4 .texts <|
    .cons 5 .text <|
    .cons 6 (.message localizedTextMessage) <|
    .cons 7 .text <|
    .cons 8 .text <|
    .cons 9 .text <|
    .cons 10 .text <|
    .cons 11 (.message coordinatesMessage) <|
    .cons 12 .real <|
    .cons 13 .text <|
    .cons 14 .text <|
    .cons 15 .int32 <|
    .cons 16 .int32 <|
    .cons 17 .int32 <|
    .cons 18 .int32 <|
    .cons 19 (.message openingHoursMessage) <|
    .cons 20 (.message localizedTextMessage) <|
    .cons 21 .text <|
    .cons 22 .text <|
    .cons 23 .text <|
    .cons 24 (.messages photoMessage) <|
    .cons 25 (.messages attributionMessage) <|
    .cons 30 .flag <|
    .cons 31 .flag <|
    .cons 32 .flag <|
    .cons 33 .flag <|
    .cons 34 .flag <|
    .cons 35 .flag <|
    .cons 36 .flag <|
    .cons 37 .flag <|
    .cons 38 .flag <|
    .cons 39 .flag <|
    .cons 40 .flag <|
    .cons 41 .flag <|
    .cons 42 .flag <|
    .cons 43 .flag <|
    .cons 44 .flag <|
    .cons 45 .flag <|
    .cons 46 .flag <|
    .cons 47 .flag <|
    .cons 48 .flag <|
    .cons 49 .flag <|
    .cons 50 .flag <|
    .cons 51 .flag <|
    .cons 52 .flag <|
    .cons 53 .flag
    .nil

end Place

def SearchResult.message : Message SearchResult :=
  .ofFields SearchResult.columns <| .cons 1 (.messages Place.message) .nil

namespace Payload

def size : Payload → Nat
  | place p => Place.message.size p
  | search r => SearchResult.message.size r

/-- A buffer holds fewer than 63 bits of bytes. -/
def sizeLimit : Nat := 2 ^ 63

def encode : Payload → Bytes
  | place p => Place.message.writeDelimited p
  | search r => SearchResult.message.writeDelimited r

def decode? (kind : PayloadKind) (s : Bytes) : Option Payload :=
  match kind with
  | .place => (Place.message.readDelimited s).map place
  | .search => (SearchResult.message.readDelimited s).map search

/-- A place about which nothing is told is no answer. A search without results is one. -/
def isEmpty : Payload → Bool
  | place p => Place.message.size p == 0
  | search _ => false

end Payload

end PlaceGateway
