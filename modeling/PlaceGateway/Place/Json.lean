import PlaceGateway.Json.Shape
import PlaceGateway.Place
/-! Places and search results as JSON. -/

namespace PlaceGateway

open Json (Shape Members)

namespace Place

def localizedText : Shape LocalizedText :=
  .record LocalizedText.columns <| .cons "text" .text <| .cons "languageCode" .text .nil

def coordinates : Shape Coordinates :=
  .record Coordinates.columns <| .cons "latitude" .real <| .cons "longitude" .real .nil

def openingHours : Shape OpeningHours :=
  .record OpeningHours.columns <|
    .cons "openNow" .flag <| .cons "weekdayDescriptions" (.list .text) .nil

def photo : Shape Photo :=
  .record Photo.columns <|
    .cons "name" .text <| .cons "widthPx" .int32 <| .cons "heightPx" .int32 <|
    .cons "authorAttributions" (.list .text) .nil

def attribution : Shape Attribution :=
  .record Attribution.columns <| .cons "provider" .text <| .cons "providerUri" .text .nil

/-- The number of an enumeration value, written by the value's name. Unknown numbers and names are
those of the unspecified value. -/
def numberedName (α : Type) [Enumeration α] : Shape Int32 where
  absent := 0
  write n := .text (Enumeration.name (Enumeration.ofNumber n : α))
  read d := (Shape.text.read d).map fun s => Enumeration.number (Enumeration.ofName s : α)

def members {Status Price Picture : Type} (status : Shape Status) (price : Shape Price)
    (picture : Shape Picture) : Members (Place.Types Status Price Picture) :=
  .cons "name" .text <|
  .cons "id" .text <|
  .cons "displayName" (.optional localizedText) <|
  .cons "types" (.list .text) <|
  .cons "primaryType" .text <|
  .cons "primaryTypeDisplayName" (.optional localizedText) <|
  .cons "nationalPhoneNumber" .text <|
  .cons "internationalPhoneNumber" .text <|
  .cons "formattedAddress" .text <|
  .cons "shortFormattedAddress" .text <|
  .cons "location" (.optional coordinates) <|
  .cons "rating" .real <|
  .cons "googleMapsUri" .text <|
  .cons "websiteUri" .text <|
  .cons "businessStatus" status <|
  .cons "priceLevel" price <|
  .cons "userRatingCount" .int32 <|
  .cons "utcOffsetMinutes" .int32 <|
  .cons "currentOpeningHours" (.optional openingHours) <|
  .cons "editorialSummary" (.optional localizedText) <|
  .cons "adrFormatAddress" .text <|
  .cons "iconMaskBaseUri" .text <|
  .cons "iconBackgroundColor" .text <|
  .cons "photos" (.list picture) <|
  .cons "attributions" (.list attribution) <|
  .cons "takeout" .flag <|
  .cons "delivery" .flag <|
  .cons "dineIn" .flag <|
  .cons "curbsidePickup" .flag <|
  .cons "reservable" .flag <|
  .cons "servesBreakfast" .flag <|
  .cons "servesLunch" .flag <|
  .cons "servesDinner" .flag <|
  .cons "servesBeer" .flag <|
  .cons "servesWine" .flag <|
  .cons "servesBrunch" .flag <|
  .cons "servesVegetarianFood" .flag <|
  .cons "outdoorSeating" .flag <|
  .cons "liveMusic" .flag <|
  .cons "menuForChildren" .flag <|
  .cons "servesCocktails" .flag <|
  .cons "servesDessert" .flag <|
  .cons "servesCoffee" .flag <|
  .cons "goodForChildren" .flag <|
  .cons "allowsDogs" .flag <|
  .cons "restroom" .flag <|
  .cons "goodForGroups" .flag <|
  .cons "goodForWatchingSports" .flag <|
  .cons "pureServiceAreaBusiness" .flag
  .nil

def shape : Shape Place :=
  .record columns (members (numberedName BusinessStatus) (numberedName PriceLevel) photo)

end Place

def SearchResult.shape : Shape SearchResult :=
  .record SearchResult.columns <| .cons "places" (.list Place.shape) .nil

namespace Payload

def json : Payload → Json
  | place p => Place.shape.write p
  | search r => SearchResult.shape.write r

def readDocument (kind : PayloadKind) (s : Bytes) : Except Json.Fault Payload :=
  match kind with
  | .place => (Place.shape.readDocument s).map place
  | .search => (SearchResult.shape.readDocument s).map search

end Payload

end PlaceGateway
