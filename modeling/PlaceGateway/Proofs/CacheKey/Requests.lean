import Mathlib.Data.List.Forall2
import Mathlib.Data.List.Perm.Basic
import Mathlib.Tactic.Tauto
import PlaceGateway.Proofs.CacheKey.Parts
import PlaceGateway.Request.Key
/-! Which requests of an operation share a key. -/

namespace PlaceGateway

namespace Request

/-- Requests of one operation that ask for the same, whatever their session tokens. Price levels are
compared as multisets, and requested fields by a relation. -/
def AgreesUpTo (fields : List String → List String → Prop) : Request → Request → Prop
  | searchText r, searchText r' =>
    { r with priceLevels := r'.priceLevels, requestedFields := r'.requestedFields } = r' ∧
      r.priceLevels.Perm r'.priceLevels ∧ fields r.requestedFields r'.requestedFields
  | searchRestaurants r, searchRestaurants r' => r = r'
  | getPlace r, getPlace r' =>
    { r with sessionToken := r'.sessionToken, requestedFields := r'.requestedFields } = r' ∧
      fields r.requestedFields r'.requestedFields
  | getRestaurantDetails r, getRestaurantDetails r' => { r with sessionToken := r'.sessionToken } = r'
  | _, _ => False

/-- The decimal texts of two ratings tell them apart. -/
def RatingsRead : Request → Request → Prop
  | searchText r, searchText r' =>
    Decimal.keyText r.minRating = Decimal.keyText r'.minRating → r.minRating = r'.minRating
  | _, _ => True

theorem name_rankPreference {a b : RankPreference} : Enumeration.name a = Enumeration.name b ↔ a = b := by
  cases a <;> cases b <;> decide

def priceText (p : PriceLevel) : String := toString (Enumeration.number p).toInt

theorem priceText_injective : Function.Injective priceText := by
  intro a b same
  have numbers := Int32.toInt_inj.mp (Digits.toString_int_injective same)
  revert numbers
  cases a <;> cases b <;> decide

theorem priceText_clean (p : PriceLevel) : ',' ∉ (priceText p).toList := by
  cases p <;> decide +kernel

theorem alike_prices (a b : List PriceLevel) :
    ParamValue.Alike (a.map priceText) (b.map priceText) ↔ a.Perm b := by
  have clean (values : List PriceLevel) : ∀ text ∈ values.map priceText, ',' ∉ text.toList := by
    intro text member
    obtain ⟨p, _, rfl⟩ := List.mem_map.mp member
    exact priceText_clean p
  constructor
  · intro alike
    exact (List.map_perm_map_iff priceText_injective).mp
      (ParamValue.perm_of_alike (clean a) (clean b) alike)
  · intro perm
    exact ParamValue.alike_of_perm (perm.map priceText)

theorem names_parameters {r r' : Request} (same : r.operation = r'.operation) :
    r.parameters.map Prod.fst = r'.parameters.map Prod.fst := by
  cases r <;> cases r' <;> first | rfl | cases same

theorem parameters_named (r : Request) : (r.parameters.map Prod.fst).Nodup ∧
    ∀ name ∈ r.parameters.map Prod.fst, '=' ∉ name.toList ∧ CacheKey.IsPlain name := by
  cases r <;>
    · simp only [parameters, List.map_cons, List.map_nil]
      decide +kernel

theorem mem_parts {r : Request} {part : String} :
    part ∈ r.params.parts ↔
      ∃ name value, (name, value) ∈ r.parameters ∧ RequestParams.part? name value = some part := by
  have listed {entry : String × Option ParamValue} : entry ∈ r.params.entries ↔ entry ∈ r.parameters :=
    (RequestParams.ofList_perm r.parameters r.parameters_named.1).mem_iff
  rw [RequestParams.parts, List.mem_filterMap]
  constructor
  · rintro ⟨⟨name, value⟩, inside, given⟩
    exact ⟨name, value, listed.mp inside, given⟩
  · rintro ⟨name, value, inside, given⟩
    exact ⟨(name, value), listed.mpr inside, given⟩

/-- Requests of one operation have the same parts when they agree on everything but what lists joined
with commas do not tell. -/
theorem parts_eq_iff (r r' : Request) (same : r.operation = r'.operation) (readable : RatingsRead r r') :
    r.params.parts = r'.params.parts ↔ r.AgreesUpTo ParamValue.Alike r' := by
  obtain ⟨distinct, plain⟩ := r.parameters_named
  rw [params, params, RequestParams.parts_ofList_eq_iff _ _ (names_parameters same) distinct
    (fun name member => (plain name member).1)]
  -- The names are the same on both sides, so the parts are compared parameter by parameter.
  cases r <;> cases r' <;> try cases same
  case searchText.searchText r r' =>
    have readable : Decimal.keyText r.minRating = Decimal.keyText r'.minRating ↔
        r.minRating = r'.minRating := ⟨readable, congrArg Decimal.keyText⟩
    have prices : ParamValue.Alike (r.priceLevels.map fun p => toString (Enumeration.number p).toInt)
        (r'.priceLevels.map fun p => toString (Enumeration.number p).toInt) ↔
          r.priceLevels.Perm r'.priceLevels := alike_prices _ _
    simp only [parameters, List.forall₂_cons, List.forall₂_nil_left_iff, RequestParams.part?_text,
      RequestParams.part?_flag, RequestParams.part?_integer, RequestParams.part?_real,
      RequestParams.part?_texts, and_true, readable, prices, name_rankPreference, Int32.toInt_inj]
    cases r
    cases r'
    simp only [AgreesUpTo, TextSearch.mk.injEq, true_and, and_true]
    tauto
  case searchRestaurants.searchRestaurants r r' =>
    simp only [parameters, List.forall₂_cons, List.forall₂_nil_left_iff, RequestParams.part?_text,
      and_true]
    cases r
    cases r'
    simp only [AgreesUpTo, RestaurantSearch.mk.injEq]
  case getPlace.getPlace r r' =>
    simp only [parameters, List.forall₂_cons, List.forall₂_nil_left_iff, RequestParams.part?_text,
      RequestParams.part?_texts, and_true]
    cases r
    cases r'
    simp only [AgreesUpTo, PlaceLookup.mk.injEq, and_true, and_assoc]
  case getRestaurantDetails.getRestaurantDetails r r' =>
    simp only [parameters, List.forall₂_cons, List.forall₂_nil_left_iff, RequestParams.part?_text,
      and_true]
    cases r
    cases r'
    simp only [AgreesUpTo, RestaurantLookup.mk.injEq, and_true]

end Request

end PlaceGateway
