import PlaceGateway.Place.Json
import PlaceGateway.Proofs.Enumeration
import PlaceGateway.Proofs.Json.Restores
import PlaceGateway.Request.Json
import PlaceGateway.Request.Key
/-! Payloads and requests come back from their JSON texts, but for enumeration numbers that no value has. -/

namespace PlaceGateway

open Json (Members Shape ParsesBack)

/-- All the numbers are finite, and their texts are read back as the numbers. -/
def Restorable (xs : List Binary64) : Prop := ∀ x ∈ xs, x.isFinite = true ∧ ParsesBack x

instance (xs : List Binary64) : Decidable (Restorable xs) :=
  inferInstanceAs (Decidable (∀ x ∈ xs, x.isFinite = true ∧
    Shape.real.readDocument (Bytes.ofText (Decimal.jsonText x)) = .ok x))

/-- Zero instead of a number that no value has. -/
def Enumeration.declared (α : Type) [Enumeration α] (n : Int32) : Int32 :=
  if n ∈ (Enumeration.all : List α).map Enumeration.number then n else 0

namespace Place

def doubles (p : Place) : List Binary64 :=
  p.location.elim [] (fun c => [c.latitude, c.longitude]) ++ [p.rating]

def declared (p : Place) : Place :=
  { p with
    businessStatus := Enumeration.declared BusinessStatus p.businessStatus
    priceLevel := Enumeration.declared PriceLevel p.priceLevel }

theorem localizedText_plain : localizedText.Plain :=
  (Shape.record_restores LocalizedText.columns
    (.beside Shape.text_plain <| .beside Shape.text_plain Members.nil_restores) (by decide)).plain
    (fun _ => trivial) fun _ => rfl

theorem coordinates_restores : coordinates.Restores (fun c => Restorable [c.latitude, c.longitude]) id :=
  (Shape.record_restores Coordinates.columns
    (.cons Shape.real_restores <| .cons Shape.real_restores Members.nil_restores) (by decide)).congr
    (fun _ good => ⟨good _ List.mem_cons_self, good _ (List.mem_cons_of_mem _ List.mem_cons_self), trivial⟩)
    fun _ => rfl

theorem openingHours_plain : openingHours.Plain :=
  (Shape.record_restores OpeningHours.columns
    (.beside Shape.flag_plain <| .beside Shape.text_plain.list Members.nil_restores) (by decide)).plain
    (fun _ => trivial) fun _ => rfl

theorem photo_plain : photo.Plain :=
  (Shape.record_restores Photo.columns
    (.beside Shape.text_plain <| .beside Shape.int32_plain <| .beside Shape.int32_plain <|
      .beside Shape.text_plain.list Members.nil_restores) (by decide)).plain
    (fun _ => trivial) fun _ => rfl

theorem attribution_plain : attribution.Plain :=
  (Shape.record_restores Attribution.columns
    (.beside Shape.text_plain <| .beside Shape.text_plain Members.nil_restores) (by decide)).plain
    (fun _ => trivial) fun _ => rfl

theorem numberedName_restores {α : Type} [Enumeration α] (lawful : Enumeration.Lawful α) :
    (numberedName α).Restores (fun _ => True) (Enumeration.declared α) := by
  intro n _
  refine ⟨_, Json.text_scans _, ?_⟩
  simp only [numberedName, Shape.text, Except.map, lawful.ofName_name, lawful.number_ofNumber]
  rfl

theorem shape_restores : shape.Restores (fun p => Restorable p.doubles) declared := by
  have text := Shape.text_plain
  have texts := Shape.text_plain.list
  have flag := Shape.flag_plain
  have int32 := Shape.int32_plain
  have localizedText := localizedText_plain.optional nofun
  have coordinates : (Shape.optional coordinates).Restores _ id :=
    (coordinates_restores.optional nofun).congr (fun _ good => good) fun _ => congrFun Option.map_id _
  -- Two members need a condition, the coordinates and the rating, and two come back as values that are declared.
  have rows : (members (numberedName BusinessStatus) (numberedName PriceLevel) photo).Restores _ _ :=
    .beside text <| .beside text <| .beside localizedText <| .beside texts <| .beside text <|
      .beside localizedText <| .beside text <| .beside text <| .beside text <| .beside text <|
      .cons coordinates <| .cons Shape.real_restores <| .beside text <| .beside text <|
      .cons (numberedName_restores Enumeration.businessStatus_lawful) <|
      .cons (numberedName_restores Enumeration.priceLevel_lawful) <| .beside int32 <| .beside int32 <|
      .beside (openingHours_plain.optional nofun) <| .beside localizedText <| .beside text <| .beside text <|
      .beside text <| .beside photo_plain.list <| .beside attribution_plain.list <|
      .beside flag <| .beside flag <| .beside flag <| .beside flag <| .beside flag <| .beside flag <|
      .beside flag <| .beside flag <| .beside flag <| .beside flag <| .beside flag <| .beside flag <|
      .beside flag <| .beside flag <| .beside flag <| .beside flag <| .beside flag <| .beside flag <|
      .beside flag <| .beside flag <| .beside flag <| .beside flag <| .beside flag <|
      .beside flag Members.nil_restores
  refine (Shape.record_restores Place.columns rows (by decide +kernel)).congr ?_ fun _ => rfl
  intro p good
  refine ⟨fun c located x member => good x ?_, good p.rating (List.mem_append_right _ List.mem_cons_self),
    trivial, trivial, trivial⟩
  have located : p.location = some c := located
  rw [doubles, located]
  exact List.mem_append_left _ member

end Place

namespace SearchResult

def doubles (r : SearchResult) : List Binary64 := r.places.flatMap Place.doubles

def declared (r : SearchResult) : SearchResult := ⟨r.places.map Place.declared⟩

theorem shape_restores : shape.Restores (fun r => Restorable r.doubles) declared := by
  have rows : (Members.cons "places" (.list Place.shape) .nil).Restores _ _ :=
    .cons Place.shape_restores.list Members.nil_restores
  refine (Shape.record_restores SearchResult.columns rows (by decide)).congr ?_ fun _ => rfl
  intro r good
  exact ⟨fun p member x own => good x (List.mem_flatMap.mpr ⟨p, member, own⟩), trivial⟩

end SearchResult

namespace Payload

def doubles : Payload → List Binary64
  | place p => p.doubles
  | search r => r.doubles

def declared : Payload → Payload
  | place p => place p.declared
  | search r => search r.declared

theorem readDocument_json (p : Payload) (restorable : Restorable p.doubles) :
    readDocument p.kind (Bytes.ofText p.json.render) = .ok p.declared := by
  cases p with
  | place p =>
      have read := Place.shape_restores.readDocument restorable
      rw [json, kind, readDocument, read]
      rfl
  | search r =>
      have read := SearchResult.shape_restores.readDocument restorable
      rw [json, kind, readDocument, read]
      rfl

end Payload

theorem Enumeration.shape_plain {α : Type} [Enumeration α] (lawful : Enumeration.Lawful α) :
    (Enumeration.shape : Shape α).Plain := Shape.named_plain lawful.ofName?_name

theorem TextSearch.shape_restores : TextSearch.shape.Restores (fun r => Restorable [r.minRating]) id := by
  have text := Shape.text_plain
  have flag := Shape.flag_plain
  have rank := Enumeration.shape_plain Enumeration.rankPreference_lawful
  have price := Enumeration.shape_plain Enumeration.priceLevel_lawful
  refine (Shape.record_restores TextSearch.columns (.beside text <| .beside text <| .beside text <| .beside rank <|
    .beside text <| .beside flag <| .cons Shape.real_restores <| .beside Shape.int32_plain <| .beside price.list <|
    .beside flag <| .beside flag <| .beside text.list Members.nil_restores) (by decide +kernel)).congr ?_ fun _ => rfl
  exact fun r good => ⟨good _ List.mem_cons_self, trivial⟩

theorem RestaurantSearch.shape_plain : RestaurantSearch.shape.Plain :=
  (Shape.record_restores RestaurantSearch.columns
    (.beside Shape.text_plain <| .beside Shape.text_plain <| .beside Shape.text_plain Members.nil_restores)
    (by decide)).plain (fun _ => trivial) fun _ => rfl

theorem PlaceLookup.shape_plain : PlaceLookup.shape.Plain :=
  (Shape.record_restores PlaceLookup.columns
    (.beside Shape.text_plain <| .beside Shape.text_plain <| .beside Shape.text_plain <| .beside Shape.text_plain <|
      .beside Shape.text_plain.list Members.nil_restores) (by decide)).plain (fun _ => trivial) fun _ => rfl

theorem RestaurantLookup.shape_plain : RestaurantLookup.shape.Plain :=
  (Shape.record_restores RestaurantLookup.columns
    (.beside Shape.text_plain <| .beside Shape.text_plain <| .beside Shape.text_plain <|
      .beside Shape.text_plain Members.nil_restores) (by decide)).plain (fun _ => trivial) fun _ => rfl

namespace Request

def doubles : Request → List Binary64
  | searchText r => [r.minRating]
  | searchRestaurants _ | getPlace _ | getRestaurantDetails _ => []

theorem readDocument_json (r : Request) (restorable : Restorable r.doubles) :
    readDocument r.operation (Bytes.ofText r.json.render) = .ok r := by
  cases r with
  | searchText r =>
      have read := TextSearch.shape_restores.readDocument restorable
      rw [json, operation, readDocument, readWith, read]
      rfl
  | searchRestaurants r =>
      have read := RestaurantSearch.shape_plain.readDocument (a := r) trivial
      rw [json, operation, readDocument, readWith, read]
      rfl
  | getPlace r =>
      have read := PlaceLookup.shape_plain.readDocument (a := r) trivial
      rw [json, operation, readDocument, readWith, read]
      rfl
  | getRestaurantDetails r =>
      have read := RestaurantLookup.shape_plain.readDocument (a := r) trivial
      rw [json, operation, readDocument, readWith, read]
      rfl

theorem readFront_of_readDocument {operation : Operation} {s : Bytes} {r : Request}
    (read : readDocument operation s = .ok r) : readFront operation s = .ok r := by
  have front {α : Type} {shape : Shape α} {f : α → Request} (read : (shape.readDocument s).map f = .ok r) :
      (shape.readFront s).map f = .ok r := by
    rcases Json.map_eq_ok_iff.mp read with ⟨a, whole, made⟩
    exact Json.map_eq_ok_iff.mpr ⟨a, (Shape.readDocument_iff.mp whole).1, made⟩
  cases operation with
  | searchText => exact front read
  | searchRestaurants => exact front read
  | getPlace => exact front read
  | getRestaurantDetails => exact front read

end Request

/-- What the gateway writes as JSON it reads back. -/
theorem documents_restore (payload : Payload) (request : Request) (space : KeySpace)
    (numbers : Restorable payload.doubles) (numbers' : Restorable request.doubles) :
    Payload.readDocument payload.kind (Bytes.ofText payload.json.render) = .ok payload.declared ∧
      Request.readDocument request.operation (Bytes.ofText request.json.render) = .ok request ∧
      Request.readFront request.operation (Bytes.ofText request.json.render) = .ok request ∧
      (Request.readDocument request.operation (Bytes.ofText request.json.render)).map (Request.key space) =
        .ok (request.key space) := by
  have read := request.readDocument_json numbers'
  refine ⟨payload.readDocument_json numbers, read, Request.readFront_of_readDocument read, ?_⟩
  rw [read]
  rfl

def crookedPlace : Place :=
  { (default : Place) with
    name := "places/\"\\\n\x01é😀"
    location := some ⟨⟨0x3FF8000000000000⟩, ⟨0xBFE0000000000000⟩⟩
    rating := ⟨0x4012000000000000⟩
    businessStatus := 2
    priceLevel := 9
    photos := [⟨"", -1, 7, ["", ","]⟩] }

def ratedSearch : TextSearch where
  textQuery := "\x7b\"q\": [1]\x7d"
  languageCode := ""
  regionCode := "US"
  rankPreference := .distance
  includedType := ""
  openNow := true
  minRating := ⟨0x4012000000000000⟩
  maxResultCount := -20
  priceLevels := [.free, .unspecified]
  strictTypeFiltering := false
  includePureServiceAreaBusinesses := true
  requestedFields := ["id"]

theorem documents_restore_of_crookedPlace :
    Payload.readDocument .place (Bytes.ofText (Payload.place crookedPlace).json.render) =
        .ok (.place { crookedPlace with priceLevel := 0 }) ∧
      Request.readDocument .searchText (Bytes.ofText (Request.searchText ratedSearch).json.render) =
        .ok (.searchText ratedSearch) := by
  have restored := documents_restore (.place crookedPlace) (.searchText ratedSearch) .standard
    (by decide +kernel) (by decide +kernel)
  exact ⟨restored.1, restored.2.1⟩

end PlaceGateway
