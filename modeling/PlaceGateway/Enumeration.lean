/-! Enumerations whose values have a number and a name. Value zero is the unspecified one. -/

namespace PlaceGateway

class Enumeration (α : Type) where
  all : List α
  number : α → Int32
  name : α → String
  unspecified : α

namespace Enumeration

variable {α : Type} [Enumeration α]

def ofNumber? (n : Int32) : Option α := (all : List α).find? fun a => number a == n

def ofName? (s : String) : Option α := (all : List α).find? fun a => name a == s

/-- Numbers that no value has stand for the unspecified value. -/
def ofNumber (n : Int32) : α := (ofNumber? n).getD unspecified

def ofName (s : String) : α := (ofName? s).getD unspecified

end Enumeration

inductive PriceLevel where
  | unspecified
  | free
  | inexpensive
  | moderate
  | expensive
  | veryExpensive
  deriving DecidableEq, Repr

instance : Enumeration PriceLevel where
  all := [.unspecified, .free, .inexpensive, .moderate, .expensive, .veryExpensive]
  number
    | .unspecified => 0
    | .free => 1
    | .inexpensive => 2
    | .moderate => 3
    | .expensive => 4
    | .veryExpensive => 5
  name
    | .unspecified => "PRICE_LEVEL_UNSPECIFIED"
    | .free => "PRICE_LEVEL_FREE"
    | .inexpensive => "PRICE_LEVEL_INEXPENSIVE"
    | .moderate => "PRICE_LEVEL_MODERATE"
    | .expensive => "PRICE_LEVEL_EXPENSIVE"
    | .veryExpensive => "PRICE_LEVEL_VERY_EXPENSIVE"
  unspecified := .unspecified

inductive RankPreference where
  | unspecified
  | distance
  | relevance
  deriving DecidableEq, Repr

instance : Enumeration RankPreference where
  all := [.unspecified, .distance, .relevance]
  number
    | .unspecified => 0
    | .distance => 1
    | .relevance => 2
  name
    | .unspecified => "RANK_PREFERENCE_UNSPECIFIED"
    | .distance => "DISTANCE"
    | .relevance => "RELEVANCE"
  unspecified := .unspecified

inductive BusinessStatus where
  | unspecified
  | operational
  | closedTemporarily
  | closedPermanently
  deriving DecidableEq, Repr

instance : Enumeration BusinessStatus where
  all := [.unspecified, .operational, .closedTemporarily, .closedPermanently]
  number
    | .unspecified => 0
    | .operational => 1
    | .closedTemporarily => 2
    | .closedPermanently => 3
  name
    | .unspecified => "BUSINESS_STATUS_UNSPECIFIED"
    | .operational => "BUSINESS_STATUS_OPERATIONAL"
    | .closedTemporarily => "BUSINESS_STATUS_CLOSED_TEMPORARILY"
    | .closedPermanently => "BUSINESS_STATUS_CLOSED_PERMANENTLY"
  unspecified := .unspecified

end PlaceGateway
