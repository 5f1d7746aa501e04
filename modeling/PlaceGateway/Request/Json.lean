import PlaceGateway.Json.Shape
import PlaceGateway.Request
/-! Requests as JSON. -/

namespace PlaceGateway

open Json (Shape)

def Enumeration.shape {α : Type} [Enumeration α] : Shape α :=
  .named Enumeration.unspecified Enumeration.name Enumeration.ofName?

def TextSearch.shape : Shape TextSearch :=
  .record columns <|
    .cons "textQuery" .text <| .cons "languageCode" .text <| .cons "regionCode" .text <|
    .cons "rankPreference" Enumeration.shape <| .cons "includedType" .text <|
    .cons "openNow" .flag <| .cons "minRating" .real <| .cons "maxResultCount" .int32 <|
    .cons "priceLevels" (.list Enumeration.shape) <| .cons "strictTypeFiltering" .flag <|
    .cons "includePureServiceAreaBusinesses" .flag <| .cons "requestedFields" (.list .text) .nil

def RestaurantSearch.shape : Shape RestaurantSearch :=
  .record columns <|
    .cons "textQuery" .text <| .cons "languageCode" .text <| .cons "regionCode" .text .nil

def PlaceLookup.shape : Shape PlaceLookup :=
  .record columns <|
    .cons "name" .text <| .cons "languageCode" .text <| .cons "regionCode" .text <|
    .cons "sessionToken" .text <| .cons "requestedFields" (.list .text) .nil

def RestaurantLookup.shape : Shape RestaurantLookup :=
  .record columns <|
    .cons "name" .text <| .cons "languageCode" .text <| .cons "regionCode" .text <|
    .cons "sessionToken" .text .nil

namespace Request

def json : Request → Json
  | searchText r => TextSearch.shape.write r
  | searchRestaurants r => RestaurantSearch.shape.write r
  | getPlace r => PlaceLookup.shape.write r
  | getRestaurantDetails r => RestaurantLookup.shape.write r

def readWith (read : {α : Type} → Shape α → Except Json.Fault α) :
    Operation → Except Json.Fault Request
  | .searchText => (read TextSearch.shape).map searchText
  | .searchRestaurants => (read RestaurantSearch.shape).map searchRestaurants
  | .getPlace => (read PlaceLookup.shape).map getPlace
  | .getRestaurantDetails => (read RestaurantLookup.shape).map getRestaurantDetails

def readDocument (operation : Operation) (s : Bytes) : Except Json.Fault Request :=
  readWith (·.readDocument s) operation

def readFront (operation : Operation) (s : Bytes) : Except Json.Fault Request :=
  readWith (·.readFront s) operation

end Request

end PlaceGateway
