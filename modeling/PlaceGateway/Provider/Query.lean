import PlaceGateway.Json.Value
import PlaceGateway.Request
/-! What the provider is asked: the body of a search, the mask of fields, the query of a lookup. -/

namespace PlaceGateway.Provider

def restaurantFields : List String :=
  ["id", "name", "display_name", "formatted_address", "short_formatted_address", "rating",
   "business_status", "google_maps_uri", "website_uri", "price_level", "user_rating_count",
   "current_opening_hours", "dine_in", "curbside_pickup", "reservable", "serves_breakfast",
   "serves_lunch", "serves_dinner", "serves_beer", "serves_wine", "serves_brunch",
   "serves_vegetarian_food", "outdoor_seating", "live_music", "menu_for_children",
   "serves_cocktails", "serves_dessert", "serves_coffee", "good_for_children", "allows_dogs",
   "restroom", "good_for_groups", "good_for_watching_sports", "takeout", "generative_summary",
   "review_summary", "editorial_summary"]

def searchScope : String := "places."

/-- Fields within a scope, separated by commas; no fields ask for all of them. -/
def fieldMask (fields : List String) (scope : String) : String :=
  if fields = [] then "*" else ",".intercalate (fields.map (scope ++ ·))

def rankName : RankPreference → Option String
  | .unspecified => none
  | r => some (Enumeration.name r)

def memberUnless (isDefault : Bool) (name : String) (value : Json) : List (String × Json) :=
  if isDefault then [] else [(name, value)]

def textMember (name value : String) : List (String × Json) :=
  memberUnless value.isEmpty name (.text value)

def flagMember (name : String) (value : Bool) : List (String × Json) :=
  memberUnless (!value) name (.flag value)

/-- The query is always told, and everything else unless it is the default. -/
def searchBody (r : TextSearch) : Json :=
  .record <|
    ("textQuery", .text r.textQuery) ::
    textMember "languageCode" r.languageCode ++
    textMember "regionCode" r.regionCode ++
    (match rankName r.rankPreference with
      | none => []
      | some name => [("rankPreference", .text name)]) ++
    textMember "includedType" r.includedType ++
    flagMember "openNow" r.openNow ++
    memberUnless r.minRating.isZero "minRating" (.real r.minRating) ++
    memberUnless (r.maxResultCount == 0) "maxResultCount" (.integer r.maxResultCount.toInt) ++
    memberUnless r.priceLevels.isEmpty "priceLevels"
      (.list (r.priceLevels.map fun p => .text (Enumeration.name p))) ++
    flagMember "strictTypeFiltering" r.strictTypeFiltering ++
    flagMember "includePureServiceAreaBusinesses" r.includePureServiceAreaBusinesses

def lookupPairs (languageCode regionCode sessionToken : String) : List (String × String) :=
  [("languageCode", languageCode), ("regionCode", regionCode), ("sessionToken", sessionToken)].filter
    fun pair => !pair.2.isEmpty

end PlaceGateway.Provider
