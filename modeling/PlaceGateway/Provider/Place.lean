import PlaceGateway.Place.Json
/-! Places as the provider tells them, and what the gateway makes of them. -/

namespace PlaceGateway.Provider

open Json (Shape)

structure Author where
  displayName : String
  uri : String
  photoUri : String
  deriving DecidableEq, Repr, Inhabited

structure Picture where
  name : String
  widthPx : Int32
  heightPx : Int32
  authorAttributions : List Author
  deriving DecidableEq, Repr, Inhabited

/-- Status and price level are told by names. -/
structure ToldPlace where
  name : String
  id : String
  displayName : Option LocalizedText
  types : List String
  primaryType : String
  primaryTypeDisplayName : Option LocalizedText
  nationalPhoneNumber : String
  internationalPhoneNumber : String
  formattedAddress : String
  shortFormattedAddress : String
  location : Option Coordinates
  rating : Binary64
  googleMapsUri : String
  websiteUri : String
  businessStatus : String
  priceLevel : String
  userRatingCount : Int32
  utcOffsetMinutes : Int32
  currentOpeningHours : Option OpeningHours
  editorialSummary : Option LocalizedText
  adrFormatAddress : String
  iconMaskBaseUri : String
  iconBackgroundColor : String
  photos : List Picture
  attributions : List Attribution
  takeout : Bool
  delivery : Bool
  dineIn : Bool
  curbsidePickup : Bool
  reservable : Bool
  servesBreakfast : Bool
  servesLunch : Bool
  servesDinner : Bool
  servesBeer : Bool
  servesWine : Bool
  servesBrunch : Bool
  servesVegetarianFood : Bool
  outdoorSeating : Bool
  liveMusic : Bool
  menuForChildren : Bool
  servesCocktails : Bool
  servesDessert : Bool
  servesCoffee : Bool
  goodForChildren : Bool
  allowsDogs : Bool
  restroom : Bool
  goodForGroups : Bool
  goodForWatchingSports : Bool
  pureServiceAreaBusiness : Bool
  deriving DecidableEq, Repr, Inhabited

structure ToldSearch where
  places : List ToldPlace
  deriving DecidableEq, Repr, Inhabited

def Author.columns : Columns Author [String, String, String] where
  toRow a := (a.displayName, a.uri, a.photoUri, ())
  ofRow := fun (displayName, uri, photoUri, _) => ⟨displayName, uri, photoUri⟩
  ofRow_toRow _ := rfl
  toRow_ofRow _ := rfl

def Picture.columns : Columns Picture [String, Int32, Int32, List Author] where
  toRow p := (p.name, p.widthPx, p.heightPx, p.authorAttributions, ())
  ofRow := fun (name, widthPx, heightPx, authors, _) => ⟨name, widthPx, heightPx, authors⟩
  ofRow_toRow _ := rfl
  toRow_ofRow _ := rfl

def ToldPlace.columns : Columns ToldPlace (Place.Types String String Picture) where
  toRow p :=
    (p.name, p.id, p.displayName, p.types, p.primaryType, p.primaryTypeDisplayName,
     p.nationalPhoneNumber, p.internationalPhoneNumber, p.formattedAddress, p.shortFormattedAddress,
     p.location, p.rating, p.googleMapsUri, p.websiteUri, p.businessStatus, p.priceLevel,
     p.userRatingCount, p.utcOffsetMinutes, p.currentOpeningHours, p.editorialSummary,
     p.adrFormatAddress, p.iconMaskBaseUri, p.iconBackgroundColor, p.photos, p.attributions,
     p.takeout, p.delivery, p.dineIn, p.curbsidePickup, p.reservable, p.servesBreakfast,
     p.servesLunch, p.servesDinner, p.servesBeer, p.servesWine, p.servesBrunch,
     p.servesVegetarianFood, p.outdoorSeating, p.liveMusic, p.menuForChildren, p.servesCocktails,
     p.servesDessert, p.servesCoffee, p.goodForChildren, p.allowsDogs, p.restroom, p.goodForGroups,
     p.goodForWatchingSports, p.pureServiceAreaBusiness, ())
  ofRow := fun
    (name, id, displayName, types, primaryType, primaryTypeDisplayName, nationalPhoneNumber,
     internationalPhoneNumber, formattedAddress, shortFormattedAddress, location, rating,
     googleMapsUri, websiteUri, businessStatus, priceLevel, userRatingCount, utcOffsetMinutes,
     currentOpeningHours, editorialSummary, adrFormatAddress, iconMaskBaseUri, iconBackgroundColor,
     photos, attributions, takeout, delivery, dineIn, curbsidePickup, reservable, servesBreakfast,
     servesLunch, servesDinner, servesBeer, servesWine, servesBrunch, servesVegetarianFood,
     outdoorSeating, liveMusic, menuForChildren, servesCocktails, servesDessert, servesCoffee,
     goodForChildren, allowsDogs, restroom, goodForGroups, goodForWatchingSports,
     pureServiceAreaBusiness, _) =>
    ⟨name, id, displayName, types, primaryType, primaryTypeDisplayName, nationalPhoneNumber,
     internationalPhoneNumber, formattedAddress, shortFormattedAddress, location, rating,
     googleMapsUri, websiteUri, businessStatus, priceLevel, userRatingCount, utcOffsetMinutes,
     currentOpeningHours, editorialSummary, adrFormatAddress, iconMaskBaseUri, iconBackgroundColor,
     photos, attributions, takeout, delivery, dineIn, curbsidePickup, reservable, servesBreakfast,
     servesLunch, servesDinner, servesBeer, servesWine, servesBrunch, servesVegetarianFood,
     outdoorSeating, liveMusic, menuForChildren, servesCocktails, servesDessert, servesCoffee,
     goodForChildren, allowsDogs, restroom, goodForGroups, goodForWatchingSports,
     pureServiceAreaBusiness⟩
  ofRow_toRow _ := rfl
  toRow_ofRow _ := rfl

def ToldSearch.columns : Columns ToldSearch [List ToldPlace] where
  toRow r := (r.places, ())
  ofRow := fun (places, _) => ⟨places⟩
  ofRow_toRow _ := rfl
  toRow_ofRow _ := rfl

def Author.shape : Shape Author :=
  .record columns <|
    .cons "displayName" .text <| .cons "uri" .text <| .cons "photoUri" .text .nil

def Picture.shape : Shape Picture :=
  .record columns <|
    .cons "name" .text <| .cons "widthPx" .int32 <| .cons "heightPx" .int32 <|
    .cons "authorAttributions" (.list Author.shape) .nil

def ToldPlace.shape : Shape ToldPlace :=
  .record columns (Place.members .text .text Picture.shape)

def ToldSearch.shape : Shape ToldSearch :=
  .record columns <| .cons "places" (.list ToldPlace.shape) .nil

/-- The provider's names lack the first words of the gateway's. -/
def businessStatus (name : String) : BusinessStatus :=
  if name = "OPERATIONAL" then .operational
  else if name = "CLOSED_TEMPORARILY" then .closedTemporarily
  else if name = "CLOSED_PERMANENTLY" then .closedPermanently
  else .unspecified

def priceLevel (name : String) : PriceLevel := Enumeration.ofName name

def Picture.photo (p : Picture) : Photo where
  name := p.name
  widthPx := p.widthPx
  heightPx := p.heightPx
  authorAttributions := p.authorAttributions.map Author.uri

def ToldPlace.place (p : ToldPlace) : Place where
  name := p.name
  id := p.id
  displayName := p.displayName
  types := p.types
  primaryType := p.primaryType
  primaryTypeDisplayName := p.primaryTypeDisplayName
  nationalPhoneNumber := p.nationalPhoneNumber
  internationalPhoneNumber := p.internationalPhoneNumber
  formattedAddress := p.formattedAddress
  shortFormattedAddress := p.shortFormattedAddress
  location := p.location
  rating := p.rating
  googleMapsUri := p.googleMapsUri
  websiteUri := p.websiteUri
  businessStatus := Enumeration.number (Provider.businessStatus p.businessStatus)
  priceLevel := Enumeration.number (Provider.priceLevel p.priceLevel)
  userRatingCount := p.userRatingCount
  utcOffsetMinutes := p.utcOffsetMinutes
  currentOpeningHours := p.currentOpeningHours
  editorialSummary := p.editorialSummary
  adrFormatAddress := p.adrFormatAddress
  iconMaskBaseUri := p.iconMaskBaseUri
  iconBackgroundColor := p.iconBackgroundColor
  photos := p.photos.map Picture.photo
  attributions := p.attributions
  takeout := p.takeout
  delivery := p.delivery
  dineIn := p.dineIn
  curbsidePickup := p.curbsidePickup
  reservable := p.reservable
  servesBreakfast := p.servesBreakfast
  servesLunch := p.servesLunch
  servesDinner := p.servesDinner
  servesBeer := p.servesBeer
  servesWine := p.servesWine
  servesBrunch := p.servesBrunch
  servesVegetarianFood := p.servesVegetarianFood
  outdoorSeating := p.outdoorSeating
  liveMusic := p.liveMusic
  menuForChildren := p.menuForChildren
  servesCocktails := p.servesCocktails
  servesDessert := p.servesDessert
  servesCoffee := p.servesCoffee
  goodForChildren := p.goodForChildren
  allowsDogs := p.allowsDogs
  restroom := p.restroom
  goodForGroups := p.goodForGroups
  goodForWatchingSports := p.goodForWatchingSports
  pureServiceAreaBusiness := p.pureServiceAreaBusiness

def ToldSearch.result (r : ToldSearch) : SearchResult := ⟨r.places.map ToldPlace.place⟩

def readPayload (kind : PayloadKind) (s : Bytes) : Except Json.Fault Payload :=
  match kind with
  | .place => (ToldPlace.shape.readDocument s).map fun p => .place p.place
  | .search => (ToldSearch.shape.readDocument s).map fun r => .search r.result

end PlaceGateway.Provider
