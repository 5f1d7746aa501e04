import PlaceGateway.CacheKey
import PlaceGateway.Request
/-! The cache key of a request. -/

namespace PlaceGateway

def Operation.keyName : Operation → String
  | searchText => "search_text"
  | searchRestaurants => "search_restaurants"
  | getPlace => "get"
  | getRestaurantDetails => "get_restaurant"

namespace Request

/-- All of a request that its answer depends on. -/
def parameters : Request → List (String × Option ParamValue)
  | searchText r =>
    [("q", some (.text r.textQuery)),
     ("lang", some (.text r.languageCode)),
     ("region", some (.text r.regionCode)),
     ("rank", some (.text (Enumeration.name r.rankPreference))),
     ("type", some (.text r.includedType)),
     ("open", some (.flag r.openNow)),
     ("min", some (.real r.minRating)),
     ("max", some (.integer r.maxResultCount.toInt)),
     ("prices", some (.texts (r.priceLevels.map fun p => toString (Enumeration.number p).toInt))),
     ("strict", some (.flag r.strictTypeFiltering)),
     ("pure", some (.flag r.includePureServiceAreaBusinesses)),
     ("fields", some (.texts r.requestedFields))]
  | searchRestaurants r =>
    [("q", some (.text r.textQuery)),
     ("lang", some (.text r.languageCode)),
     ("region", some (.text r.regionCode))]
  | getPlace r =>
    [("name", some (.text r.name)),
     ("lang", some (.text r.languageCode)),
     ("region", some (.text r.regionCode)),
     ("fields", some (.texts r.requestedFields))]
  | getRestaurantDetails r =>
    [("name", some (.text r.name)),
     ("lang", some (.text r.languageCode)),
     ("region", some (.text r.regionCode))]

def params (r : Request) : RequestParams := .ofList r.parameters

def key (space : KeySpace) (r : Request) : String := space.keyOf r.operation.keyName r.params

end Request

end PlaceGateway
