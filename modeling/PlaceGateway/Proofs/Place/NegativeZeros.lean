import PlaceGateway.Place.Json
import PlaceGateway.Proofs.Json.Lengths
import PlaceGateway.Proofs.Place.RoundTrip
/-! What a cache entry loses of a payload shows in the JSON text: the text of the payload that is read back
is shorter by the signs of the negative zeros. -/

namespace PlaceGateway

open Json (Members Shape)

def Coordinates.negativeZeros (c : Coordinates) : Nat :=
  c.latitude.negativeZeros + c.longitude.negativeZeros

theorem Coordinates.unsignZeros_of_negativeZeros {c : Coordinates} (none : c.negativeZeros = 0) :
    c.unsignZeros = c := by
  obtain ⟨latitude, longitude⟩ := Nat.add_eq_zero_iff.mp none
  rw [unsignZeros, Binary64.unsignZero_of_negativeZeros latitude,
    Binary64.unsignZero_of_negativeZeros longitude]

namespace Place

def negativeZeros (p : Place) : Nat :=
  p.location.elim 0 Coordinates.negativeZeros + p.rating.negativeZeros

theorem coordinates_sheds : coordinates.Sheds Coordinates.unsignZeros Coordinates.negativeZeros := by
  have rows : (Members.cons "latitude" .real <| .cons "longitude" .real .nil).Sheds _ _ :=
    .cons _ Shape.real_sheds <| .cons _ Shape.real_sheds (Members.sheds_id .nil)
  exact (Shape.record_sheds Coordinates.columns rows).congr (fun _ => rfl) fun _ => rfl

theorem shape_sheds : shape.Sheds unsignZeros negativeZeros := by
  have rows : (members (numberedName BusinessStatus) (numberedName PriceLevel) photo).Sheds _ _ :=
    .beside <| .beside <| .beside <| .beside <| .beside <| .beside <| .beside <| .beside <| .beside <|
      .beside <| .cons _ coordinates_sheds.optional <| .cons _ Shape.real_sheds (Members.sheds_id _)
  exact (Shape.record_sheds Place.columns rows).congr (fun _ => rfl)
    fun _ => rfl

theorem unsignZeros_of_negativeZeros {p : Place} (none : p.negativeZeros = 0) : p.unsignZeros = p := by
  obtain ⟨location, rating⟩ := Nat.add_eq_zero_iff.mp none
  have same : p.location.map Coordinates.unsignZeros = p.location := by
    cases found : p.location with
    | none => rfl
    | some c =>
        rw [found] at location
        rw [Option.map_some, Coordinates.unsignZeros_of_negativeZeros location]
  rw [unsignZeros, same, Binary64.unsignZero_of_negativeZeros rating]

end Place

namespace SearchResult

def negativeZeros (r : SearchResult) : Nat := (r.places.map Place.negativeZeros).sum

theorem shape_sheds : shape.Sheds unsignZeros negativeZeros := by
  have rows : (Members.cons "places" (.list Place.shape) .nil).Sheds _ _ :=
    .cons _ Place.shape_sheds.list (Members.sheds_id .nil)
  exact (Shape.record_sheds SearchResult.columns rows).congr (fun _ => rfl) fun _ => rfl

theorem unsignZeros_of_negativeZeros {r : SearchResult} (none : r.negativeZeros = 0) :
    r.unsignZeros = r := by
  have each : ∀ p ∈ r.places, p.unsignZeros = p := by
    intro p member
    have counts := List.sum_eq_zero_iff_forall_eq_nat.mp none
    exact Place.unsignZeros_of_negativeZeros (counts _ (List.mem_map_of_mem member))
  rw [unsignZeros, List.map_congr_left each, List.map_id']

end SearchResult

namespace Payload

def negativeZeros : Payload → Nat
  | place p => p.negativeZeros
  | search r => r.negativeZeros

theorem json_length (p : Payload) :
    p.json.chars.length = p.unsignZeros.json.chars.length + p.negativeZeros := by
  cases p with
  | place p => exact Place.shape_sheds p
  | search r => exact SearchResult.shape_sheds r

theorem unsignZeros_of_negativeZeros {p : Payload} (none : p.negativeZeros = 0) : p.unsignZeros = p := by
  cases p with
  | place p => exact congrArg place (Place.unsignZeros_of_negativeZeros none)
  | search r => exact congrArg search (SearchResult.unsignZeros_of_negativeZeros none)

theorem render_unsignZeros_iff (p : Payload) :
    p.json.render = p.unsignZeros.json.render ↔ p.negativeZeros = 0 := by
  constructor
  · intro same
    have lengths := congrArg List.length (String.ofList_injective same)
    rw [p.json_length] at lengths
    omega
  · intro none
    rw [unsignZeros_of_negativeZeros none]

end Payload

end PlaceGateway
