import PlaceGateway.Proofs.Enumeration
import PlaceGateway.Proofs.Json.Members
import PlaceGateway.Proofs.Table
import PlaceGateway.Provider.Place
/-! What the gateway makes of the provider's answers. A place is told on member by member, and differs only in its
business status, its price level and its photos. -/

namespace PlaceGateway.Provider

open Json (Draft Members Passes Shape under)

def priceText (name : String) : String :=
  if name ∈ ["PRICE_LEVEL_UNSPECIFIED", "PRICE_LEVEL_FREE", "PRICE_LEVEL_INEXPENSIVE", "PRICE_LEVEL_MODERATE",
    "PRICE_LEVEL_EXPENSIVE", "PRICE_LEVEL_VERY_EXPENSIVE"] then name
  else "PRICE_LEVEL_UNSPECIFIED"

variable {found : List (Option String × Draft)} {ending : Option Json.Break} {told : ToldPlace}

end PlaceGateway.Provider
