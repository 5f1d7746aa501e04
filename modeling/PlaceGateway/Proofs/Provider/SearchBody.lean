import PlaceGateway.Proofs.Json.Texts
import PlaceGateway.Provider.Query
/-! The body of a search tells everything of it but the fields that are asked for. -/

namespace PlaceGateway

variable {r : TextSearch}

/-- What of a search is sent in its body: everything but the fields to answer, with one zero. -/
def TextSearch.sent (r : TextSearch) : TextSearch :=
  { r with minRating := r.minRating.unsignZero, requestedFields := [] }

namespace Json

def textOf : Json → String
  | text s => s
  | _ => ""

def flagOf : Json → Bool
  | flag b => b
  | _ => false

def realOf : Json → Binary64
  | real x => x
  | _ => .zero

def integerOf : Json → Int
  | integer i => i
  | _ => 0

def listOf : Json → List Json
  | list items => items
  | _ => []

end Json

namespace Provider

def readBody (body : Json) : TextSearch where
  textQuery := (body.member "textQuery").textOf
  languageCode := (body.member "languageCode").textOf
  regionCode := (body.member "regionCode").textOf
  rankPreference := Enumeration.ofName (body.member "rankPreference").textOf
  includedType := (body.member "includedType").textOf
  openNow := (body.member "openNow").flagOf
  minRating := (body.member "minRating").realOf
  maxResultCount := Int32.ofInt (body.member "maxResultCount").integerOf
  priceLevels := (body.member "priceLevels").listOf.map fun level => Enumeration.ofName level.textOf
  strictTypeFiltering := (body.member "strictTypeFiltering").flagOf
  includePureServiceAreaBusinesses := (body.member "includePureServiceAreaBusinesses").flagOf
  requestedFields := []

structure Slot where
  isDefault : Bool
  name : String
  value : Json

def Slot.members (slot : Slot) : List (String × Json) := memberUnless slot.isDefault slot.name slot.value

/-- The members of a body. Only the query is there whatever it is. -/
def slots (r : TextSearch) : List Slot :=
  [⟨false, "textQuery", .text r.textQuery⟩,
    ⟨r.languageCode.isEmpty, "languageCode", .text r.languageCode⟩,
    ⟨r.regionCode.isEmpty, "regionCode", .text r.regionCode⟩,
    ⟨r.rankPreference == .unspecified, "rankPreference", .text (Enumeration.name r.rankPreference)⟩,
    ⟨r.includedType.isEmpty, "includedType", .text r.includedType⟩,
    ⟨!r.openNow, "openNow", .flag r.openNow⟩,
    ⟨r.minRating.isZero, "minRating", .real r.minRating⟩,
    ⟨r.maxResultCount == 0, "maxResultCount", .integer r.maxResultCount.toInt⟩,
    ⟨r.priceLevels.isEmpty, "priceLevels", .list (r.priceLevels.map fun p => .text (Enumeration.name p))⟩,
    ⟨!r.strictTypeFiltering, "strictTypeFiltering", .flag r.strictTypeFiltering⟩,
    ⟨!r.includePureServiceAreaBusinesses, "includePureServiceAreaBusinesses",
      .flag r.includePureServiceAreaBusinesses⟩]

theorem searchBody_eq (r : TextSearch) : searchBody r = .record ((slots r).flatMap Slot.members) := by
  rcases r with ⟨_, _, _, rank, _⟩
  cases rank <;> simp [searchBody, rankName, slots, Slot.members, textMember, flagMember, memberUnless]

theorem slots_nodup (r : TextSearch) : ((slots r).map Slot.name).Nodup := by
  simp [slots]

variable {slot : Slot} {given : List Slot}

theorem lookup_members_of_ne {name : String} (other : name ≠ slot.name) (rest : List (String × Json)) :
    (slot.members ++ rest).lookup name = rest.lookup name := by
  rw [Slot.members, memberUnless]
  split
  · rfl
  · rw [List.singleton_append, List.lookup_cons, beq_false_of_ne other]

theorem lookup_of_notMem {name : String} (absent : name ∉ given.map Slot.name) :
    (given.flatMap Slot.members).lookup name = none := by
  induction given with
  | nil => rfl
  | cons slot given ih =>
      rw [List.map_cons, List.mem_cons, not_or] at absent
      rw [List.flatMap_cons, lookup_members_of_ne absent.1, ih absent.2]

theorem lookup_of_mem (nodup : (given.map Slot.name).Nodup) (member : slot ∈ given) :
    (given.flatMap Slot.members).lookup slot.name = if slot.isDefault then none else some slot.value := by
  induction given with
  | nil => cases member
  | cons first given ih =>
      rw [List.map_cons, List.nodup_cons] at nodup
      rw [List.flatMap_cons]
      rcases List.mem_cons.mp member with rfl | member
      · rw [Slot.members, memberUnless]
        split
        · exact lookup_of_notMem nodup.1
        · rw [List.singleton_append, List.lookup_cons_self]
      · have other : slot.name ≠ first.name := by
          intro same
          exact nodup.1 (same ▸ List.mem_map_of_mem member)
        rw [lookup_members_of_ne other, ih nodup.2 member]

theorem member_of_slot (listed : slot ∈ slots r) :
    (searchBody r).member slot.name = if slot.isDefault then .null else slot.value := by
  rw [searchBody_eq, Json.member, lookup_of_mem (slots_nodup r) listed]
  split <;> rfl

theorem slots_finite (finite : r.minRating.isFinite = true) : ∀ slot ∈ slots r, slot.value.IsFinite := by
  have levels : ∀ item ∈ r.priceLevels.map fun p => Json.text (Enumeration.name p), item.IsFinite := by
    intro item member
    rcases List.mem_map.mp member with ⟨level, _, rfl⟩
    exact .text _
  simp only [slots, List.forall_mem_cons]
  exact ⟨.text _, .text _, .text _, .text _, .text _, .flag _, .real _ finite, .integer _, .list _ levels, .flag _,
    .flag _, nofun⟩

theorem searchBody_finite (finite : r.minRating.isFinite = true) : (searchBody r).IsFinite := by
  rw [searchBody_eq]
  apply Json.IsFinite.record
  intro m member
  rcases List.mem_flatMap.mp member with ⟨slot, listed, member⟩
  rw [Slot.members, memberUnless] at member
  split at member
  · cases member
  · rw [List.mem_singleton.mp member]
    exact slots_finite finite slot listed

theorem member_eq_null_iff (listed : slot ∈ slots r) :
    (searchBody r).member slot.name = .null ↔ slot.isDefault = true := by
  have told : slot.value ≠ .null := by
    have all : ∀ slot ∈ slots r, slot.value ≠ .null := by
      simp [slots]
    exact all slot listed
  rw [member_of_slot listed]
  split
  · rename_i missing
    exact ⟨fun _ => missing, fun _ => rfl⟩
  · rename_i there
    exact ⟨fun null => absurd null told, fun missing => absurd missing there⟩

theorem textOf_unless (s : String) : (if s.isEmpty then Json.null else .text s).textOf = s := by
  split
  · rename_i empty
    exact (String.isEmpty_iff.mp empty).symm
  · rfl

theorem flagOf_unless (b : Bool) : (if !b then Json.null else .flag b).flagOf = b := by
  cases b <;> rfl

theorem rank_unless (rank : RankPreference) :
    Enumeration.ofName (if rank == .unspecified then Json.null else .text (Enumeration.name rank)).textOf =
      rank := by
  cases rank <;> decide

theorem realOf_unless (x : Binary64) : (if x.isZero then Json.null else .real x).realOf = x.unsignZero := by
  rw [Binary64.unsignZero]
  split <;> rfl

theorem integerOf_unless (i : Int32) :
    Int32.ofInt (if i == 0 then Json.null else .integer i.toInt).integerOf = i := by
  split
  · rename_i zero
    rw [beq_iff_eq.mp zero]
    rfl
  · exact Int32.ofInt_toInt i

theorem levels_unless (levels : List PriceLevel) :
    (if levels.isEmpty then Json.null else .list (levels.map fun p => .text (Enumeration.name p))).listOf.map
      (fun level => Enumeration.ofName level.textOf) = levels := by
  have back (level : PriceLevel) : (Enumeration.ofName (Enumeration.name level) : PriceLevel) = level := by
    cases level <;> decide
  split
  · rename_i empty
    rw [List.isEmpty_iff.mp empty]
    rfl
  · rw [Json.listOf, List.map_map]
    calc levels.map _ = levels.map id := List.map_congr_left fun level _ => back level
      _ = levels := List.map_id _

theorem readBody_searchBody (r : TextSearch) : readBody (searchBody r) = r.sent := by
  have told : ∀ slot ∈ slots r, (searchBody r).member slot.name = if slot.isDefault then .null else slot.value :=
    fun _ listed => member_of_slot listed
  simp only [slots, List.forall_mem_cons] at told
  rcases told with ⟨query, language, region, rank, type, isOpen, rating, count, levels, strict, pure, _⟩
  rw [readBody, query, language, region, rank, type, isOpen, rating, count, levels, strict, pure]
  simp only [textOf_unless, flagOf_unless, rank_unless, realOf_unless, integerOf_unless, levels_unless]
  rfl

theorem searchBody_sent (r : TextSearch) : searchBody r.sent = searchBody r := by
  have rating : memberUnless r.minRating.unsignZero.isZero "minRating" (.real r.minRating.unsignZero) =
      memberUnless r.minRating.isZero "minRating" (.real r.minRating) := by
    rw [Binary64.unsignZero]
    split
    · rename_i zero
      rw [zero]
      rfl
    · rfl
  rw [searchBody, TextSearch.sent, rating]
  rfl

/-- The texts of two bodies are equal exactly if the searches are, but for the fields to answer and the sign of
a rating of zero. What is missing in a body is the default. -/
theorem searchBody_loses_nothing (r r' : TextSearch) (finite : r.minRating.isFinite = true)
    (finite' : r'.minRating.isFinite = true) :
    ((searchBody r).render = (searchBody r').render ↔ r.sent = r'.sent) ∧
    ∀ slot ∈ slots r, (searchBody r).member slot.name = .null ↔ slot.isDefault = true := by
  refine ⟨⟨?_, ?_⟩, fun slot listed => member_eq_null_iff listed⟩
  · intro same
    have bodies := Json.render_injective (searchBody_finite finite) (searchBody_finite finite') same
    rw [← readBody_searchBody, bodies, readBody_searchBody]
  · intro same
    rw [← searchBody_sent r, same, searchBody_sent]

def pizzas (levels : List PriceLevel) (rating : Binary64) (fields : List String) : TextSearch :=
  ⟨"pizza", "", "", .unspecified, "", false, rating, 0, levels, false, false, fields⟩

theorem searchBody_loses_nothing_of_pizzas :
    (pizzas [.unspecified] .zero []).minRating.isFinite = true ∧
    (pizzas [] .negativeZero ["id"]).minRating.isFinite = true ∧ (pizzas [] .zero []).minRating.isFinite = true ∧
    (searchBody (pizzas [.unspecified] .zero [])).render ≠ (searchBody (pizzas [] .zero [])).render ∧
    (searchBody (pizzas [] .negativeZero ["id"])).render = (searchBody (pizzas [] .zero [])).render := by
  have zero : Binary64.zero.isFinite = true := by decide
  have negative : Binary64.negativeZero.isFinite = true := by decide
  refine ⟨zero, negative, zero, ?_, ?_⟩
  · intro same
    have filters :=
      (searchBody_loses_nothing (pizzas [.unspecified] .zero []) (pizzas [] .zero []) zero zero).1.mp same
    cases congrArg TextSearch.priceLevels filters
  · have filters : (pizzas [] .negativeZero ["id"]).sent = (pizzas [] .zero []).sent := rfl
    exact
      (searchBody_loses_nothing (pizzas [] .negativeZero ["id"]) (pizzas [] .zero []) negative zero).1.mpr filters

end Provider

end PlaceGateway
