import PlaceGateway.Binary64
import PlaceGateway.Enumeration
import PlaceGateway.Place
import PlaceGateway.Row
/-! The four operations and their requests. -/

namespace PlaceGateway

inductive Operation where
  | searchText
  | searchRestaurants
  | getPlace
  | getRestaurantDetails
  deriving DecidableEq, Repr

namespace Operation

def name : Operation → String
  | searchText => "SearchText"
  | searchRestaurants => "SearchRestaurants"
  | getPlace => "GetPlace"
  | getRestaurantDetails => "GetRestaurantDetails"

def all : List Operation := [searchText, searchRestaurants, getPlace, getRestaurantDetails]

def answerKind : Operation → PayloadKind
  | searchText | searchRestaurants => .search
  | getPlace | getRestaurantDetails => .place

end Operation

structure TextSearch where
  textQuery : String
  languageCode : String
  regionCode : String
  rankPreference : RankPreference
  includedType : String
  openNow : Bool
  minRating : Binary64
  maxResultCount : Int32
  priceLevels : List PriceLevel
  strictTypeFiltering : Bool
  includePureServiceAreaBusinesses : Bool
  requestedFields : List String
  deriving DecidableEq, Repr

structure RestaurantSearch where
  textQuery : String
  languageCode : String
  regionCode : String
  deriving DecidableEq, Repr

structure PlaceLookup where
  name : String
  languageCode : String
  regionCode : String
  /-- The billing session, which never tells two answers apart. -/
  sessionToken : String
  requestedFields : List String
  deriving DecidableEq, Repr

structure RestaurantLookup where
  name : String
  languageCode : String
  regionCode : String
  sessionToken : String
  deriving DecidableEq, Repr

inductive Request where
  | searchText (search : TextSearch)
  | searchRestaurants (search : RestaurantSearch)
  | getPlace (lookup : PlaceLookup)
  | getRestaurantDetails (lookup : RestaurantLookup)
  deriving DecidableEq, Repr

def Request.operation : Request → Operation
  | searchText _ => .searchText
  | searchRestaurants _ => .searchRestaurants
  | getPlace _ => .getPlace
  | getRestaurantDetails _ => .getRestaurantDetails

/-- The search for restaurants as a text search: the most relevant ones of that type alone. -/
def RestaurantSearch.toTextSearch (r : RestaurantSearch) : TextSearch where
  textQuery := r.textQuery
  languageCode := r.languageCode
  regionCode := r.regionCode
  rankPreference := .relevance
  includedType := "restaurant"
  openNow := false
  minRating := .zero
  maxResultCount := 0
  priceLevels := []
  strictTypeFiltering := true
  includePureServiceAreaBusinesses := false
  requestedFields := []

def TextSearch.columns : Columns TextSearch
    [String, String, String, RankPreference, String, Bool, Binary64, Int32, List PriceLevel, Bool,
      Bool, List String] where
  toRow r :=
    (r.textQuery, r.languageCode, r.regionCode, r.rankPreference, r.includedType, r.openNow,
      r.minRating, r.maxResultCount, r.priceLevels, r.strictTypeFiltering,
      r.includePureServiceAreaBusinesses, r.requestedFields, ())
  ofRow := fun (textQuery, languageCode, regionCode, rankPreference, includedType, openNow,
      minRating, maxResultCount, priceLevels, strictTypeFiltering,
      includePureServiceAreaBusinesses, requestedFields, _) =>
    ⟨textQuery, languageCode, regionCode, rankPreference, includedType, openNow, minRating,
      maxResultCount, priceLevels, strictTypeFiltering, includePureServiceAreaBusinesses,
      requestedFields⟩
  ofRow_toRow _ := rfl
  toRow_ofRow _ := rfl

def RestaurantSearch.columns : Columns RestaurantSearch [String, String, String] where
  toRow r := (r.textQuery, r.languageCode, r.regionCode, ())
  ofRow := fun (textQuery, languageCode, regionCode, _) => ⟨textQuery, languageCode, regionCode⟩
  ofRow_toRow _ := rfl
  toRow_ofRow _ := rfl

def PlaceLookup.columns : Columns PlaceLookup [String, String, String, String, List String] where
  toRow r := (r.name, r.languageCode, r.regionCode, r.sessionToken, r.requestedFields, ())
  ofRow := fun (name, languageCode, regionCode, sessionToken, requestedFields, _) =>
    ⟨name, languageCode, regionCode, sessionToken, requestedFields⟩
  ofRow_toRow _ := rfl
  toRow_ofRow _ := rfl

def RestaurantLookup.columns : Columns RestaurantLookup [String, String, String, String] where
  toRow r := (r.name, r.languageCode, r.regionCode, r.sessionToken, ())
  ofRow := fun (name, languageCode, regionCode, sessionToken, _) =>
    ⟨name, languageCode, regionCode, sessionToken⟩
  ofRow_toRow _ := rfl
  toRow_ofRow _ := rfl

end PlaceGateway
