import PlaceGateway.Proofs.CacheKey.Requests
/-! What the key of a request tells: the request, as long as no text in it holds U+0000 and no
requested field a comma. -/

namespace PlaceGateway

open CacheKey (IsPlain)

namespace Decimal

theorem plain_repr (n : Nat) : IsPlain (Nat.repr n) := by
  intro member
  rw [Nat.toList_repr] at member
  have digit := Nat.isDigit_of_mem_toDigits (by decide) (by decide) member
  revert digit
  decide

theorem plain_positional {digits : List Char} (plain : '\x00' ∉ digits) (whole : Int) :
    IsPlain (String.ofList (positional digits whole false)) := by
  intro member
  rw [String.toList_ofList, positional] at member
  split at member
  · simp [plain] at member
  · split at member
    · simp [plain] at member
    · rcases List.mem_append.mp member with front | rest
      · exact plain (List.mem_of_mem_take front)
      · rcases List.mem_cons.mp rest with point | back
        · revert point
          decide
        · exact plain (List.mem_of_mem_drop back)

theorem plain_keyText (x : Binary64) : IsPlain (keyText x) := by
  have sign : IsPlain (if x.isNegative then "-" else "") := by
    split <;> decide
  unfold keyText
  by_cases nan : x.isNaN = true
  · rw [if_pos nan]
    decide
  · rw [if_neg nan]
    by_cases infinite : (!x.isFinite) = true
    · rw [if_pos infinite]
      split <;> decide
    · rw [if_neg infinite]
      by_cases zero : x.isZero = true
      · simp only [zero, if_true]
        exact sign.append (by decide)
      · simp only [zero]
        exact sign.append (plain_positional (plain_repr _) _)

end Decimal

namespace ParamValue

def Plain : ParamValue → Prop
  | text value => IsPlain value
  | texts values => ∀ value ∈ values, IsPlain value
  | _ => True

theorem plain_join {values : List String} (plain : ∀ value ∈ values, IsPlain value) :
    IsPlain (",".intercalate values) := by
  induction values with
  | nil => decide
  | cons value rest ih =>
      have own := plain value List.mem_cons_self
      have later := ih fun other member => plain other (List.mem_cons_of_mem value member)
      cases rest with
      | nil => simpa using own
      | cons next rest =>
          rw [String.intercalate_cons_cons]
          exact (own.append (by decide)).append later

theorem Plain.normalize {value : ParamValue} (plain : value.Plain) : IsPlain value.normalize := by
  cases value with
  | text value => exact plain
  | texts values =>
      have joined : IsPlain (",".intercalate (sorted values)) :=
        plain_join fun value member => plain value ((sorted_perm values).mem_iff.mp member)
      have opened : IsPlain "[" := by decide
      exact (opened.append joined).append (by decide)
  | real value => exact Decimal.plain_keyText value
  | flag value => cases value <;> decide
  | integer value =>
      cases value with
      | ofNat n => exact Decimal.plain_repr n
      | negSucc n =>
          have sign : IsPlain "-" := by decide
          exact sign.append (Decimal.plain_repr (n + 1))

end ParamValue

theorem RequestParams.plain_part? {name part : String} {value : ParamValue} (named : IsPlain name)
    (plain : value.Plain) (given : part? name (some value) = some part) : IsPlain part := by
  rw [part?] at given
  split at given
  · cases given
  · cases given
    have sign : IsPlain "=" := by decide
    exact (named.append sign).append plain.normalize

namespace Request

def requestedFields : Request → List String
  | searchText r => r.requestedFields
  | getPlace r => r.requestedFields
  | searchRestaurants _ | getRestaurantDetails _ => []

def texts : Request → List String
  | searchText r =>
    r.textQuery :: r.languageCode :: r.regionCode :: r.includedType :: r.requestedFields
  | searchRestaurants r => [r.textQuery, r.languageCode, r.regionCode]
  | getPlace r => r.name :: r.languageCode :: r.regionCode :: r.requestedFields
  | getRestaurantDetails r => [r.name, r.languageCode, r.regionCode]

def Plain (r : Request) : Prop := ∀ text ∈ r.texts, IsPlain text
  deriving Decidable

def CommaFree (r : Request) : Prop := ∀ field ∈ r.requestedFields, ',' ∉ field.toList
  deriving Decidable

theorem plain_name (a : RankPreference) : IsPlain (Enumeration.name a) := by
  cases a <;> decide

theorem plain_priceText (p : PriceLevel) : IsPlain (priceText p) := by
  cases p <;> decide +kernel

theorem Plain.parameters {r : Request} (plain : r.Plain) {name : String} {value : ParamValue}
    (member : (name, some value) ∈ r.parameters) : value.Plain := by
  cases r with
  | searchText r =>
      obtain ⟨query, language, region, type, fields⟩ : IsPlain r.textQuery ∧ IsPlain r.languageCode ∧
          IsPlain r.regionCode ∧ IsPlain r.includedType ∧ ∀ field ∈ r.requestedFields, IsPlain field := by
        simpa [Plain, texts] using plain
      have prices : ∀ price ∈ r.priceLevels.map priceText, IsPlain price := by
        intro price member
        obtain ⟨p, _, rfl⟩ := List.mem_map.mp member
        exact plain_priceText p
      have rank := plain_name r.rankPreference
      simp only [Request.parameters, List.mem_cons, List.not_mem_nil, or_false, Prod.mk.injEq,
        Option.some.injEq] at member
      rcases member with ⟨_, rfl⟩ | ⟨_, rfl⟩ | ⟨_, rfl⟩ | ⟨_, rfl⟩ | ⟨_, rfl⟩ | ⟨_, rfl⟩ |
        ⟨_, rfl⟩ | ⟨_, rfl⟩ | ⟨_, rfl⟩ | ⟨_, rfl⟩ | ⟨_, rfl⟩ | ⟨_, rfl⟩ <;>
        trivial
  | searchRestaurants r =>
      obtain ⟨query, language, region⟩ : IsPlain r.textQuery ∧ IsPlain r.languageCode ∧
          IsPlain r.regionCode := by
        simpa [Plain, texts] using plain
      simp only [Request.parameters, List.mem_cons, List.not_mem_nil, or_false, Prod.mk.injEq,
        Option.some.injEq] at member
      rcases member with ⟨_, rfl⟩ | ⟨_, rfl⟩ | ⟨_, rfl⟩ <;> assumption
  | getPlace r =>
      obtain ⟨name, language, region, fields⟩ : IsPlain r.name ∧ IsPlain r.languageCode ∧
          IsPlain r.regionCode ∧ ∀ field ∈ r.requestedFields, IsPlain field := by
        simpa [Plain, texts] using plain
      simp only [Request.parameters, List.mem_cons, List.not_mem_nil, or_false, Prod.mk.injEq,
        Option.some.injEq] at member
      rcases member with ⟨_, rfl⟩ | ⟨_, rfl⟩ | ⟨_, rfl⟩ | ⟨_, rfl⟩ <;> assumption
  | getRestaurantDetails r =>
      obtain ⟨name, language, region⟩ : IsPlain r.name ∧ IsPlain r.languageCode ∧
          IsPlain r.regionCode := by
        simpa [Plain, texts] using plain
      simp only [Request.parameters, List.mem_cons, List.not_mem_nil, or_false, Prod.mk.injEq,
        Option.some.injEq] at member
      rcases member with ⟨_, rfl⟩ | ⟨_, rfl⟩ | ⟨_, rfl⟩ <;> assumption

theorem Plain.parts {r : Request} (plain : r.Plain) : ∀ part ∈ r.params.parts, IsPlain part := by
  intro part member
  obtain ⟨name, value, listed, given⟩ := mem_parts.mp member
  cases value with
  | none => cases given
  | some value =>
      have clean := (r.parameters_named.2 name (List.mem_map_of_mem listed)).2
      exact RequestParams.plain_part? clean (plain.parameters listed) given

theorem AgreesUpTo.mono {fields fields' : List String → List String → Prop} {r r' : Request}
    (agrees : r.AgreesUpTo fields r')
    (imp : fields r.requestedFields r'.requestedFields → fields' r.requestedFields r'.requestedFields) :
    r.AgreesUpTo fields' r' := by
  cases r <;> cases r' <;> try exact agrees
  case searchText.searchText => exact ⟨agrees.1, agrees.2.1, imp agrees.2.2⟩
  case getPlace.getPlace => exact ⟨agrees.1, imp agrees.2⟩

/-- The digest tells apart what is hashed for the two requests. -/
def CollisionFree (r r' : Request) : Prop :=
  Sha256.digest (CacheKey.digestInput r.params.parts) =
      Sha256.digest (CacheKey.digestInput r'.params.parts) →
    CacheKey.digestInput r.params.parts = CacheKey.digestInput r'.params.parts

theorem key_eq_iff (space : KeySpace) (r r' : Request) (same : r.operation = r'.operation)
    (collisionFree : CollisionFree r r') :
    r.key space = r'.key space ↔
      CacheKey.segments r.params.parts = CacheKey.segments r'.params.parts := by
  rw [key, key, KeySpace.keyOf, KeySpace.keyOf, same, KeySpace.key_eq_iff_digest,
    ← CacheKey.digestInput_eq_iff]
  exact ⟨collisionFree, congrArg Sha256.digest⟩

/-- Two requests of one operation share a key when their parts, cut at every U+0000, are the same.
When no text in them holds U+0000 they then agree on everything but the session token, price levels
compared as multisets, and requested fields also compared so when there are no commas in them. -/
theorem keys_tell_requests_apart (space : KeySpace) (r r' : Request) (same : r.operation = r'.operation)
    (collisionFree : CollisionFree r r') (readable : RatingsRead r r') :
    (r.key space = r'.key space ↔
      CacheKey.segments r.params.parts = CacheKey.segments r'.params.parts) ∧
    (r.Plain → r'.Plain → (r.key space = r'.key space ↔ r.AgreesUpTo ParamValue.Alike r')) ∧
    (r.Plain → r'.Plain → r.CommaFree → r'.CommaFree →
      (r.key space = r'.key space ↔ r.AgreesUpTo List.Perm r')) := by
  have keys := key_eq_iff space r r' same collisionFree
  have alike (plain : r.Plain) (plain' : r'.Plain) :
      r.key space = r'.key space ↔ r.AgreesUpTo ParamValue.Alike r' := by
    rw [keys, CacheKey.segments_eq_iff plain.parts plain'.parts, parts_eq_iff r r' same readable]
  refine ⟨keys, alike, fun plain plain' clean clean' => (alike plain plain').trans ⟨?_, ?_⟩⟩
  · exact fun agrees => agrees.mono (ParamValue.perm_of_alike clean clean')
  · exact fun agrees => agrees.mono ParamValue.alike_of_perm

theorem keys_tell_reordered_requests_apart :
    let r : Request := .getPlace ⟨"places/1", "en", "US", "first", ["rating", "id"]⟩
    let r' : Request := .getPlace ⟨"places/1", "en", "US", "second", ["id", "rating"]⟩
    r.key .standard = r'.key .standard := by
  intro r r'
  have fields : ["rating", "id"].Perm ["id", "rating"] := .swap _ _ _
  have parts : r.params.parts = r'.params.parts :=
    (parts_eq_iff r r' rfl trivial).mpr ⟨rfl, ParamValue.alike_of_perm fields⟩
  have told := keys_tell_requests_apart .standard r r' rfl
    (fun _ => congrArg CacheKey.digestInput parts) trivial
  exact (told.2.2 (by decide) (by decide) (by decide) (by decide)).mpr ⟨rfl, fields⟩

/-- A part with U+0000 in it is hashed as two parts, and a comma in a requested field is read as one of the
list. -/
theorem keys_confuse_requests :
    ¬ (∀ (space : KeySpace) (r r' : Request), r.operation = r'.operation → CollisionFree r r' →
      RatingsRead r r' → r.key space = r'.key space → r.AgreesUpTo List.Perm r') ∧
    ¬ (∀ (space : KeySpace) (r r' : Request), r.operation = r'.operation → CollisionFree r r' →
      RatingsRead r r' → r.Plain → r'.Plain → r.key space = r'.key space →
        r.AgreesUpTo List.Perm r') := by
  constructor
  · intro claim
    let r : Request := .searchRestaurants ⟨"pizza\x00region=US", "", ""⟩
    let r' : Request := .searchRestaurants ⟨"pizza", "", "US"⟩
    have hashed : CacheKey.digestInput r.params.parts = CacheKey.digestInput r'.params.parts := by
      decide +kernel
    have keys : r.key .standard = r'.key .standard :=
      (key_eq_iff .standard r r' rfl fun _ => hashed).mpr ((CacheKey.digestInput_eq_iff _ _).mp hashed)
    have agrees := claim .standard r r' rfl (fun _ => hashed) trivial keys
    exact absurd (congrArg RestaurantSearch.textQuery agrees) (by decide)
  · intro claim
    let r : Request := .getPlace ⟨"places/1", "", "", "", ["id,rating"]⟩
    let r' : Request := .getPlace ⟨"places/1", "", "", "", ["id", "rating"]⟩
    have whole : ParamValue.sorted ["id,rating"] = ["id,rating"] :=
      List.mergeSort_of_pairwise (by decide)
    have cut : ParamValue.sorted ["id", "rating"] = ["id", "rating"] :=
      List.mergeSort_of_pairwise (by decide)
    have alike : ParamValue.Alike ["id,rating"] ["id", "rating"] := by
      rw [ParamValue.Alike, whole, cut]
      decide
    have parts : r.params.parts = r'.params.parts := (parts_eq_iff r r' rfl trivial).mpr ⟨rfl, alike⟩
    have hashed : CacheKey.digestInput r.params.parts = CacheKey.digestInput r'.params.parts :=
      congrArg CacheKey.digestInput parts
    have keys : r.key .standard = r'.key .standard :=
      (key_eq_iff .standard r r' rfl fun _ => hashed).mpr ((CacheKey.digestInput_eq_iff _ _).mp hashed)
    have agrees := claim .standard r r' rfl (fun _ => hashed) trivial (by decide) (by decide) keys
    exact absurd agrees.2.length_eq (by decide)

end Request

end PlaceGateway
