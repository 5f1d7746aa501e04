import PlaceGateway.Binary64
import PlaceGateway.Enumeration
import PlaceGateway.Row
/-! Places and search results. -/

namespace PlaceGateway

structure LocalizedText where
  text : String
  languageCode : String
  deriving DecidableEq, Repr, Inhabited

structure Coordinates where
  latitude : Binary64
  longitude : Binary64
  deriving DecidableEq, Repr, Inhabited

structure OpeningHours where
  openNow : Bool
  weekdayDescriptions : List String
  deriving DecidableEq, Repr, Inhabited

structure Photo where
  name : String
  widthPx : Int32
  heightPx : Int32
  authorAttributions : List String
  deriving DecidableEq, Repr, Inhabited

structure Attribution where
  provider : String
  providerUri : String
  deriving DecidableEq, Repr, Inhabited

/-- Status and price level are numbers of enumerations, among them numbers that no value has. -/
structure Place where
  name : String
  protected id : String
  displayName : Option LocalizedText
  types : List String
  primaryType : String
  primaryTypeDisplayName : Option LocalizedText
  nationalPhoneNumber : String
  internationalPhoneNumber : String
  formattedAddress : String
  shortFormattedAddress : String
  location : Option Coordinates
  rating : Binary64
  googleMapsUri : String
  websiteUri : String
  businessStatus : Int32
  priceLevel : Int32
  userRatingCount : Int32
  utcOffsetMinutes : Int32
  currentOpeningHours : Option OpeningHours
  editorialSummary : Option LocalizedText
  adrFormatAddress : String
  iconMaskBaseUri : String
  iconBackgroundColor : String
  photos : List Photo
  attributions : List Attribution
  takeout : Bool
  delivery : Bool
  dineIn : Bool
  curbsidePickup : Bool
  reservable : Bool
  servesBreakfast : Bool
  servesLunch : Bool
  servesDinner : Bool
  servesBeer : Bool
  servesWine : Bool
  servesBrunch : Bool
  servesVegetarianFood : Bool
  outdoorSeating : Bool
  liveMusic : Bool
  menuForChildren : Bool
  servesCocktails : Bool
  servesDessert : Bool
  servesCoffee : Bool
  goodForChildren : Bool
  allowsDogs : Bool
  restroom : Bool
  goodForGroups : Bool
  goodForWatchingSports : Bool
  pureServiceAreaBusiness : Bool
  deriving DecidableEq, Repr, Inhabited

structure SearchResult where
  places : List Place
  deriving DecidableEq, Repr, Inhabited

/-- What a cache entry holds and an operation answers. -/
inductive Payload where
  | place (place : Place)
  | search (result : SearchResult)
  deriving DecidableEq, Repr

inductive PayloadKind where
  | place
  | search
  deriving DecidableEq, Repr

def Payload.kind : Payload → PayloadKind
  | place _ => .place
  | search _ => .search

def LocalizedText.columns : Columns LocalizedText [String, String] where
  toRow t := (t.text, t.languageCode, ())
  ofRow := fun (text, languageCode, _) => ⟨text, languageCode⟩
  ofRow_toRow _ := rfl
  toRow_ofRow _ := rfl

def Coordinates.columns : Columns Coordinates [Binary64, Binary64] where
  toRow c := (c.latitude, c.longitude, ())
  ofRow := fun (latitude, longitude, _) => ⟨latitude, longitude⟩
  ofRow_toRow _ := rfl
  toRow_ofRow _ := rfl

def OpeningHours.columns : Columns OpeningHours [Bool, List String] where
  toRow h := (h.openNow, h.weekdayDescriptions, ())
  ofRow := fun (openNow, weekdayDescriptions, _) => ⟨openNow, weekdayDescriptions⟩
  ofRow_toRow _ := rfl
  toRow_ofRow _ := rfl

def Photo.columns : Columns Photo [String, Int32, Int32, List String] where
  toRow p := (p.name, p.widthPx, p.heightPx, p.authorAttributions, ())
  ofRow := fun (name, widthPx, heightPx, authorAttributions, _) =>
    ⟨name, widthPx, heightPx, authorAttributions⟩
  ofRow_toRow _ := rfl
  toRow_ofRow _ := rfl

def Attribution.columns : Columns Attribution [String, String] where
  toRow a := (a.provider, a.providerUri, ())
  ofRow := fun (provider, providerUri, _) => ⟨provider, providerUri⟩
  ofRow_toRow _ := rfl
  toRow_ofRow _ := rfl

def SearchResult.columns : Columns SearchResult [List Place] where
  toRow r := (r.places, ())
  ofRow := fun (places, _) => ⟨places⟩
  ofRow_toRow _ := rfl
  toRow_ofRow _ := rfl

/-- The types of a place's members, in order. The gateway and its provider differ in how they tell the business
status, the price level and the photos. -/
abbrev Place.Types (Status Price Picture : Type) : List Type :=
  [String, String, Option LocalizedText, List String, String, Option LocalizedText, String, String,
    String, String, Option Coordinates, Binary64, String, String, Status, Price, Int32, Int32,
    Option OpeningHours, Option LocalizedText, String, String, String, List Picture,
    List Attribution, Bool, Bool, Bool, Bool, Bool, Bool, Bool, Bool, Bool, Bool, Bool, Bool, Bool,
    Bool, Bool, Bool, Bool, Bool, Bool, Bool, Bool, Bool, Bool, Bool]

def Place.columns : Columns Place (Types Int32 Int32 Photo) where
  toRow p :=
    (p.name, p.id, p.displayName, p.types, p.primaryType, p.primaryTypeDisplayName,
     p.nationalPhoneNumber, p.internationalPhoneNumber, p.formattedAddress, p.shortFormattedAddress,
     p.location, p.rating, p.googleMapsUri, p.websiteUri, p.businessStatus, p.priceLevel,
     p.userRatingCount, p.utcOffsetMinutes, p.currentOpeningHours, p.editorialSummary,
     p.adrFormatAddress, p.iconMaskBaseUri, p.iconBackgroundColor, p.photos, p.attributions,
     p.takeout, p.delivery, p.dineIn, p.curbsidePickup, p.reservable, p.servesBreakfast,
     p.servesLunch, p.servesDinner, p.servesBeer, p.servesWine, p.servesBrunch,
     p.servesVegetarianFood, p.outdoorSeating, p.liveMusic, p.menuForChildren, p.servesCocktails,
     p.servesDessert, p.servesCoffee, p.goodForChildren, p.allowsDogs, p.restroom, p.goodForGroups,
     p.goodForWatchingSports, p.pureServiceAreaBusiness, ())
  ofRow := fun
    (name, id, displayName, types, primaryType, primaryTypeDisplayName, nationalPhoneNumber,
     internationalPhoneNumber, formattedAddress, shortFormattedAddress, location, rating,
     googleMapsUri, websiteUri, businessStatus, priceLevel, userRatingCount, utcOffsetMinutes,
     currentOpeningHours, editorialSummary, adrFormatAddress, iconMaskBaseUri, iconBackgroundColor,
     photos, attributions, takeout, delivery, dineIn, curbsidePickup, reservable, servesBreakfast,
     servesLunch, servesDinner, servesBeer, servesWine, servesBrunch, servesVegetarianFood,
     outdoorSeating, liveMusic, menuForChildren, servesCocktails, servesDessert, servesCoffee,
     goodForChildren, allowsDogs, restroom, goodForGroups, goodForWatchingSports,
     pureServiceAreaBusiness, _) =>
    ⟨name, id, displayName, types, primaryType, primaryTypeDisplayName, nationalPhoneNumber,
     internationalPhoneNumber, formattedAddress, shortFormattedAddress, location, rating,
     googleMapsUri, websiteUri, businessStatus, priceLevel, userRatingCount, utcOffsetMinutes,
     currentOpeningHours, editorialSummary, adrFormatAddress, iconMaskBaseUri, iconBackgroundColor,
     photos, attributions, takeout, delivery, dineIn, curbsidePickup, reservable, servesBreakfast,
     servesLunch, servesDinner, servesBeer, servesWine, servesBrunch, servesVegetarianFood,
     outdoorSeating, liveMusic, menuForChildren, servesCocktails, servesDessert, servesCoffee,
     goodForChildren, allowsDogs, restroom, goodForGroups, goodForWatchingSports,
     pureServiceAreaBusiness⟩
  ofRow_toRow _ := rfl
  toRow_ofRow _ := rfl

end PlaceGateway
