import Mathlib.Data.List.Nodup
import PlaceGateway.Proofs.CacheKey.Keys
import PlaceGateway.Provider.Exchange
/-! Names of places: which ones the provider is asked for, and what becomes of requests with others. -/

namespace PlaceGateway

def IsIdChar (ch : Char) : Prop :=
  ('A' ≤ ch ∧ ch ≤ 'Z') ∨ ('a' ≤ ch ∧ ch ≤ 'z') ∨ ('0' ≤ ch ∧ ch ≤ '9') ∨ ch = '-' ∨ ch = '_'

def IsPlaceName (name : String) : Prop :=
  ∃ id : List Char, id ≠ [] ∧ (∀ ch ∈ id, IsIdChar ch) ∧ name = "places/" ++ String.ofList id

theorem isPlaceIdChar_iff (ch : Char) : Provider.isPlaceIdChar ch = true ↔ IsIdChar ch := by
  have upper : ch.isUpper = true ↔ 'A' ≤ ch ∧ ch ≤ 'Z' := decide_eq_true_iff
  have lower : ch.isLower = true ↔ 'a' ≤ ch ∧ ch ≤ 'z' :=
    Bool.and_eq_true_iff.trans (and_congr decide_eq_true_iff decide_eq_true_iff)
  have digit : ch.isDigit = true ↔ '0' ≤ ch ∧ ch ≤ '9' := by simp [Char.isDigit, Char.le_def]
  have alphanum : ch.isAlphanum = (ch.isUpper || ch.isLower || ch.isDigit) := rfl
  simp only [Provider.isPlaceIdChar, alphanum, Bool.or_eq_true, upper, lower, digit,
    beq_iff_eq, IsIdChar, or_assoc]

theorem isPlaceName_iff (name : String) : Provider.isPlaceName name = true ↔ IsPlaceName name := by
  constructor
  · intro named
    rw [Provider.isPlaceName] at named
    split at named
    · rename_i id chars
      obtain ⟨some_, all⟩ := (Bool.and_eq_true _ _).mp named
      refine ⟨id, of_decide_eq_true some_, ?_, ?_⟩
      · intro ch member
        exact (isPlaceIdChar_iff ch).mp (List.all_eq_true.mp all ch member)
      · rw [← String.toList_inj, chars]
        simp
    · cases named
  · rintro ⟨id, some_, all, rfl⟩
    have chars : ("places/" ++ String.ofList id).toList = 'p' :: 'l' :: 'a' :: 'c' :: 'e' :: 's' :: '/' :: id := by
      simp
    rw [Provider.isPlaceName, chars]
    refine (Bool.and_eq_true _ _).mpr ?_
    exact ⟨decide_eq_true some_, List.all_eq_true.mpr fun ch member =>
      (isPlaceIdChar_iff ch).mpr (all ch member)⟩

theorem IsPlaceName.ne_empty {name : String} (named : IsPlaceName name) : name ≠ "" := by
  obtain ⟨id, _, _, rfl⟩ := named
  intro empty
  have chars := congrArg String.toList empty
  simp at chars

theorem IsIdChar.ne_zero {ch : Char} (own : IsIdChar ch) : ch ≠ '\x00' := by
  rintro rfl
  revert own
  unfold IsIdChar
  decide

theorem IsPlaceName.plain {name : String} (named : IsPlaceName name) : CacheKey.IsPlain name := by
  obtain ⟨id, _, all, rfl⟩ := named
  have front : CacheKey.IsPlain "places/" := by decide
  refine front.append ?_
  intro member
  rw [String.toList_ofList] at member
  exact (all _ member).ne_zero rfl

namespace Request

def placeName? : Request → Option String
  | getPlace r => some r.name
  | getRestaurantDetails r => some r.name
  | searchText _ | searchRestaurants _ => none

def IsMisnamed (r : Request) : Prop := ∃ name, r.placeName? = some name ∧ ¬ IsPlaceName name

variable {r r' : Request}

theorem placeName?_of_operation (same : r.operation = r'.operation) {name : String}
    (is : r.placeName? = some name) : ∃ name', r'.placeName? = some name' := by
  cases r with
  | searchText r => cases is
  | searchRestaurants r => cases is
  | getPlace r => cases r' <;> first | exact ⟨_, rfl⟩ | cases same
  | getRestaurantDetails r => cases r' <;> first | exact ⟨_, rfl⟩ | cases same

theorem screen_of_placeName? {name : String} (is : r.placeName? = some name) :
    Provider.screen r = Provider.requirePlaceName name := by
  cases r with
  | searchText r => cases is
  | searchRestaurants r => cases is
  | getPlace r =>
      cases is
      rfl
  | getRestaurantDetails r =>
      cases is
      rfl

theorem IsMisnamed.screen (misnamed : r.IsMisnamed) :
    ∃ reason, Provider.screen r = .error (.invalidRequest "name" reason) := by
  rcases misnamed with ⟨name, is, unnamed⟩
  have bad : ¬ Provider.isPlaceName name = true := fun named => unnamed ((isPlaceName_iff name).mp named)
  rw [screen_of_placeName? is, Provider.requirePlaceName, Provider.require, if_neg bad]
  split
  · exact ⟨_, rfl⟩
  · exact ⟨_, rfl⟩

theorem screen_of_isPlaceName {name : String} (is : r.placeName? = some name) (named : IsPlaceName name) :
    Provider.screen r = .ok () := by
  rw [screen_of_placeName? is, Provider.requirePlaceName, Provider.require, if_neg named.ne_empty]
  exact if_pos ((isPlaceName_iff name).mpr named)

theorem IsMisnamed.call (misnamed : r.IsMisnamed) (access : Provider.Access)
    (transport : Provider.Transport) (done : Option CallError) :
    ∃ reason, access.call transport done r = .error (.invalidRequest "name" reason) := by
  rcases misnamed.screen with ⟨reason, refused⟩
  refine ⟨reason, ?_⟩
  simp only [Provider.Access.call, Provider.Access.prepare, refused]
  rfl

theorem parameter_of_placeName? {name : String} (is : r.placeName? = some name) :
    ("name", some (.text name)) ∈ r.parameters := by
  cases r with
  | searchText r => cases is
  | searchRestaurants r => cases is
  | getPlace r =>
      cases is
      exact List.mem_cons_self
  | getRestaurantDetails r =>
      cases is
      exact List.mem_cons_self

theorem eq_of_parameter {name : String} (is : r.placeName? = some name) {value : Option ParamValue}
    (listed : ("name", value) ∈ r.parameters) : value = some (.text name) := by
  have own := parameter_of_placeName? is
  have pair := List.inj_on_of_nodup_map r.parameters_named.1 listed own rfl
  exact (Prod.mk.inj pair).2

theorem part_of_name {name : String} (nonempty : name ≠ "") :
    RequestParams.part? "name" (some (.text name)) = some ("name" ++ "=" ++ name) := by
  rw [RequestParams.part?, if_neg]
  · rfl
  · simpa [ParamValue.isUnspecified] using nonempty

/-- A request without U+0000 shares the cut parts of a request for a place that there can be only when
it is for the same one. -/
theorem name_of_segments (plain : r.Plain)
    (same : CacheKey.segments r.params.parts = CacheKey.segments r'.params.parts) {name name' : String}
    (is : r.placeName? = some name) (is' : r'.placeName? = some name') (named : IsPlaceName name') :
    name = name' := by
  have part : "name" ++ "=" ++ name' ∈ r'.params.parts :=
    mem_parts.mpr ⟨"name", _, parameter_of_placeName? is', part_of_name named.ne_empty⟩
  have clean : CacheKey.IsPlain ("name" ++ "=" ++ name') := by
    have front : CacheKey.IsPlain ("name" ++ "=") := by decide
    exact front.append named.plain
  have segment : ("name" ++ "=" ++ name').toList ∈ CacheKey.segments r'.params.parts := by
    refine List.mem_flatMap.mpr ⟨_, part, ?_⟩
    rw [List.splitOn_eq_singleton clean]
    exact List.mem_cons_self
  rw [← same, CacheKey.segments_of_plain plain.parts] at segment
  obtain ⟨own, member, chars⟩ := List.mem_map.mp segment
  obtain ⟨parameter, value, listed, given⟩ := mem_parts.mp (String.toList_inj.mp chars ▸ member)
  obtain ⟨text, equal⟩ := RequestParams.eq_of_part? given
  have unsigned := (r.parameters_named.2 parameter (List.mem_map_of_mem listed)).1
  obtain ⟨rfl, _⟩ := RequestParams.part_injective (by decide) unsigned equal
  cases eq_of_parameter is listed
  by_cases nonempty : name = ""
  · subst nonempty
    cases given
  · rw [part_of_name nonempty] at given
    exact (RequestParams.part_injective (by decide) (by decide) (Option.some.inj given)).2

end Request

end PlaceGateway
