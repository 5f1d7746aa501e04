import PlaceGateway.Proofs.Provider.Names
import PlaceGateway.Proofs.Url.Form
import PlaceGateway.Proofs.Url.Origin
import PlaceGateway.Proofs.Url.Path
/-! Where requests for places go: to the URL of the provider with the name of the place below it, and a query
of the request's own texts. -/

namespace PlaceGateway

open Url (Origin)

variable {r : Request} {name : String} {c : ProviderConfig} {access : Provider.Access} {o : Origin} {n : Nat}
  {u : Url} {done : Option CallError} {m : Provider.Message}

theorem IsIdChar.plain {ch : Char} (own : IsIdChar ch) : Url.isPlain ch = true := by
  have small : ch.toNat < 128 := by
    rw [IsIdChar] at own
    rcases own with own | own | own | rfl | rfl
    · exact Nat.lt_of_le_of_lt own.2 (by decide)
    · exact Nat.lt_of_le_of_lt own.2 (by decide)
    · exact Nat.lt_of_le_of_lt own.2 (by decide)
    · decide
    · decide
  have all : ∀ n < 128, Provider.isPlaceIdChar (Char.ofNat n) = true → Url.isPlain (Char.ofNat n) = true := by
    decide +kernel
  rw [← Char.ofNat_toNat ch]
  apply all ch.toNat small
  rw [Char.ofNat_toNat]
  exact (isPlaceIdChar_iff ch).mpr own

def lookupSegments (id : List Char) : List (List Char) := ["v1".toList, "places".toList, id]

theorem lookupSegments_plain {id : List Char} (all : ∀ ch ∈ id, IsIdChar ch) :
    ∀ segment ∈ lookupSegments id, Url.IsPlain segment := by
  have known (segment : List Char) (plain : segment.all Url.isPlain = true) : Url.IsPlain segment :=
    List.all_eq_true.mp plain
  simp only [lookupSegments, List.forall_mem_cons]
  refine ⟨known _ (by decide), known _ (by decide), ?_, nofun⟩
  intro ch member
  exact (all ch member).plain

theorem rooted_lookupSegments (id : List Char) :
    Url.rooted (lookupSegments id) = ("/v1/" ++ ("places/" ++ String.ofList id)).toList := by
  simp [Url.rooted, lookupSegments]

namespace Url

def Origin.slashed (o : Origin) (n : Nat) : String := String.ofList (o.chars ++ List.replicate n '/')

theorem isTail_slashes (n : Nat) : IsTail (List.replicate n '/') := by
  constructor
  · cases n with
    | zero => exact .inl rfl
    | succ n => exact .inr ⟨_, rfl⟩
  · intro c member
    rw [List.eq_of_mem_replicate member]
    decide

/-- The slashes are all there is to trim, since the port ends in a digit. -/
theorem Origin.trimSlashes_slashed (o : Origin) (n : Nat) :
    Provider.Access.trimSlashes (o.slashed n) = o.text := by
  have ended : o.chars.reverse = o.port.reverse ++ (o.scheme ++ ':' :: '/' :: '/' :: o.host ++ [':']).reverse := by
    simp [chars, authority]
  have trimmed : o.chars.reverse.dropWhile (· == '/') = o.chars.reverse := by
    have digits := o.digits
    rw [← List.reverse_ne_nil_iff] at digits
    cases back : o.port.reverse with
    | nil => exact absurd back digits.1
    | cons d rest =>
        have digit : d.isDigit = true := digits.2 d (List.mem_reverse.mp (back ▸ List.mem_cons_self))
        rw [ended, back, List.cons_append, List.dropWhile_cons_of_neg]
        rw [beq_iff_eq]
        rintro rfl
        cases digit
  have slashes : ∀ c ∈ List.replicate n '/', (c == '/') = true := by
    intro c member
    rw [List.eq_of_mem_replicate member]
    rfl
  rw [Provider.Access.trimSlashes, Text.dropEnd, slashed, String.toList_ofList, List.reverse_append, List.reverse_replicate,
    List.dropWhile_append_of_pos slashes, trimmed, List.reverse_reverse, text]

theorem withPairs_of_none (none_ : u.query = none) (pairs : List (String × String)) :
    ∃ query, u.withPairs pairs = { u with query } ∧ (query.getD "").toList = formPairs pairs := by
  refine ⟨_, rfl, ?_⟩
  simp only [none_]
  split
  · rename_i empty
    rw [Option.getD_none, ← empty, String.toList_ofList]
  · rw [Option.getD_some, String.toList_ofList]

end Url

namespace Provider

/-- Whatever the provider would say, the caller is told this. -/
def Access.Withholds (a : Access) (done : Option CallError) (r : Request) (e : CallError) : Prop :=
  ∀ transport, a.call transport done r = .error e

/-- One message is sent, and what comes back for it is all that the caller is told. -/
def Access.Sends (a : Access) (done : Option CallError) (r : Request) (m : Message) : Prop :=
  ∀ transport, a.call transport done r =
    match transport m with
    | .error reason => .error (.provider (callName r.operation) none reason)
    | .ok reply => readReply r.operation reply

def Access.HasHeaders (a : Access) (r : Request) : Prop :=
  Access.isHeaderText (fieldMask (fields r) (scope r)) = true ∧ Access.isHeaderText a.apiKey = true

theorem Access.withholds_of_prepare {e : CallError} (prepared : access.prepare done r = .error e) :
    access.Withholds done r e := by
  intro transport
  rw [call, prepared]
  rfl

theorem Access.sends_of_prepare (prepared : access.prepare done r = .ok m) : access.Sends done r m := by
  intro transport
  rw [call, prepared]
  rfl

theorem Access.ofConfig_slashed (based : c.baseUrl = o.slashed n) (built : ofConfig c = .ok access) :
    access.baseUrl = o.text ∧ ∃ u, Url.ofText o.text = .ok u ∧ Url.ofText c.baseUrl =
      .ok (Url.withTail (Url.isSpecial o.schemeName) (List.replicate n '/') u) := by
  have tailed := o.ofText_append (Url.isTail_slashes n)
  rw [← Origin.slashed, ← based] at tailed
  rw [ofConfig, tailed] at built
  cases read : Url.ofText o.text with
  | error e =>
      rw [read] at built
      cases built
  | ok u =>
      rw [read] at built
      cases built
      rw [tailed, read, based]
      exact ⟨o.trimSlashes_slashed n, u, rfl, rfl⟩

theorem ofText_lookup (named : IsPlaceName name) (read : Url.ofText o.text = .ok u) :
    ∃ path, Url.Path.text path = "/v1/" ++ name ∧
      Url.ofText (o.text ++ "/v1/" ++ name) = .ok { u with path, query := none, fragment := none } := by
  rcases named with ⟨id, _, all, rfl⟩
  have plain := lookupSegments_plain all
  have follows : Url.IsTail (Url.rooted (lookupSegments id)) := ⟨.inr ⟨_, rfl⟩, Url.visible_of_rooted plain⟩
  have whole : o.text ++ "/v1/" ++ ("places/" ++ String.ofList id) =
      String.ofList (o.chars ++ Url.rooted (lookupSegments id)) := by
    rw [rooted_lookupSegments, ← String.toList_inj, String.append_assoc, String.toList_append, Origin.text,
      String.toList_ofList, String.toList_ofList]
  refine ⟨.rooted ((lookupSegments id).map String.ofList), ?_, ?_⟩
  · rw [Url.text_rooted, rooted_lookupSegments, String.ofList_toList]
  · have some_ : lookupSegments id ≠ [] := List.cons_ne_nil _ _
    rw [whole, o.ofText_append follows, read, Except.map, Url.withTail, Url.pathOf_rooted _ some_ plain,
      Url.trailer_of_rooted _ plain]

end Provider

namespace Request

/-- The texts that a request for a place has besides the name, as they are called in its query. -/
def options : Request → List (String × String)
  | getPlace r =>
    [("languageCode", r.languageCode), ("regionCode", r.regionCode), ("sessionToken", r.sessionToken)]
  | getRestaurantDetails r =>
    [("languageCode", r.languageCode), ("regionCode", r.regionCode), ("sessionToken", r.sessionToken)]
  | searchText _ | searchRestaurants _ => []

theorem asked_of_placeName? (is : r.placeName? = some name) :
    Provider.resource r = name ∧ Provider.pairs r = r.options.filter (·.2 ≠ "") ∧ Provider.body? r = none := by
  have empty (texts : List (String × String)) :
      (texts.filter fun pair => !pair.2.isEmpty) = texts.filter (·.2 ≠ "") := by
    apply List.filter_congr
    intro pair _
    rw [Bool.eq_iff_iff]
    simp
  cases r with
  | searchText r => cases is
  | searchRestaurants r => cases is
  | getPlace r =>
      cases is
      exact ⟨rfl, empty _, rfl⟩
  | getRestaurantDetails r =>
      cases is
      exact ⟨rfl, empty _, rfl⟩

end Request

namespace Provider

theorem Access.message_of_lookup (based : access.baseUrl = o.text) (read : Url.ofText o.text = .ok u)
    (is : r.placeName? = some name) (named : IsPlaceName name) (headers : access.HasHeaders r) :
    ∃ m, access.message r = .ok m ∧ m.body = none ∧
      m.url = { u with path := m.url.path, query := m.url.query, fragment := none } ∧
      m.url.path.text = "/v1/" ++ name ∧
      Url.formPairsOf (m.url.query.getD "").toList = r.options.filter (·.2 ≠ "") := by
  rcases Request.asked_of_placeName? is with ⟨resource, pairs, body⟩
  rcases ofText_lookup named read with ⟨path, text, url⟩
  rcases Url.withPairs_of_none (u := { u with path, query := none, fragment := none }) rfl (Provider.pairs r) with
    ⟨query, added, form⟩
  refine ⟨⟨{ u with path, query, fragment := none }, access.apiKey, fieldMask (fields r) (scope r), none⟩, ?_, rfl,
    rfl, text, ?_⟩
  · rw [message, based, resource, url]
    simp only [headers.1, headers.2, and_self, if_true, added, body]
  · rw [form, Url.formPairsOf_formPairs, pairs]

theorem Access.message_of_not_hasHeaders (headers : ¬ access.HasHeaders r) :
    ∃ reason, access.message r = .error reason := by
  rw [message]
  split
  · exact ⟨_, rfl⟩
  · exact ⟨_, if_neg headers⟩

/-- Requests for places go to the URL of the provider, with the name below it and the texts in the query, or
nowhere. They go nowhere only when the name is none, the caller is done, or a header cannot be written, and
whoever asks with such a name is told so. -/
theorem lookup_keeps_url (based : c.baseUrl = o.slashed n) (built : Access.ofConfig c = .ok access)
    (is : r.placeName? = some name) :
    (¬ IsPlaceName name → ∃ reason, ∀ done, access.Withholds done r (.invalidRequest "name" reason)) ∧
    ∃ base, Url.ofText c.baseUrl = .ok base ∧ ∀ done,
      (∃ e, access.Withholds done r e ∧ (IsPlaceName name → done = none → ¬ access.HasHeaders r)) ∨
      ∃ m, access.Sends done r m ∧ m.method = "GET" ∧ IsPlaceName name ∧
        m.url = { base with path := m.url.path, query := m.url.query, fragment := none } ∧
        m.url.path.text = "/v1/" ++ name ∧
        Url.formPairsOf (m.url.query.getD "").toList = r.options.filter (·.2 ≠ "") := by
  rcases Access.ofConfig_slashed based built with ⟨trimmed, u, read, base⟩
  have refused (unnamed : ¬ IsPlaceName name) :
      ∃ reason, ∀ done, access.Withholds done r (.invalidRequest "name" reason) := by
    rcases Request.IsMisnamed.screen ⟨name, is, unnamed⟩ with ⟨reason, refused⟩
    refine ⟨reason, ?_⟩
    intro done
    apply Access.withholds_of_prepare
    simp only [Access.prepare, refused]
    rfl
  refine ⟨refused, _, base, ?_⟩
  intro done
  by_cases named : IsPlaceName name
  · have passed := Request.screen_of_isPlaceName is named
    cases done with
    | some e =>
        left
        refine ⟨e, ?_, ?_⟩
        · apply Access.withholds_of_prepare
          simp only [Access.prepare, passed]
          rfl
        · intro _ live
          cases live
    | none =>
        by_cases headers : access.HasHeaders r
        · rcases Access.message_of_lookup trimmed read is named headers with ⟨m, written, body, url, path, query⟩
          refine .inr ⟨m, ?_, ?_, named, url, path, query⟩
          · apply Access.sends_of_prepare
            simp only [Access.prepare, passed, written]
            rfl
          · rw [Message.method, body]
            rfl
        · rcases Access.message_of_not_hasHeaders headers with ⟨reason, unwritten⟩
          refine .inl ⟨.provider (callName r.operation) none ("builder error: " ++ reason), ?_, fun _ _ => headers⟩
          apply Access.withholds_of_prepare
          simp only [Access.prepare, passed, unwritten]
          rfl
  · rcases refused named with ⟨reason, withheld⟩
    exact .inl ⟨_, withheld done, fun named' => absurd named' named⟩

def localOrigin : Origin where
  scheme := ['h', 't', 't', 'p']
  host := ['l', 'o', 'c', 'a', 'l']
  port := ['8', '0', '8', '0']
  lettered := rfl
  named := List.all_eq_true.mp rfl
  closed := by simp [Url.IsClosed, Url.endsAuthority, Url.isSlash]
  digits := ⟨List.cons_ne_nil _ _, List.all_eq_true.mp rfl⟩

def crookedLookup : Request :=
  .getPlace ⟨"places/a-1_B", "é&x=1+2 #?/..%2e", "", "token", []⟩

theorem lookup_keeps_url_of_crooked :
    ∃ base, Url.ofText "http://local:8080//" = .ok base ∧
      ∃ m, (Access.mk "http://local:8080" "key").Sends none crookedLookup m ∧ m.method = "GET" ∧
        m.url.path.text = "/v1/places/a-1_B" ∧
        Url.formPairsOf (m.url.query.getD "").toList =
          [("languageCode", "é&x=1+2 #?/..%2e"), ("sessionToken", "token")] := by
  have built : Access.ofConfig { baseUrl := "http://local:8080//", apiKey := "key" } =
      .ok ⟨"http://local:8080", "key"⟩ := by decide +kernel
  have kept := lookup_keeps_url (o := localOrigin) (n := 2) (by decide +kernel) built (r := crookedLookup) rfl
  rcases kept.2 with ⟨base, read, each⟩
  refine ⟨base, read, ?_⟩
  rcases each none with ⟨_, _, held⟩ | ⟨m, sent, get, _, _, path, query⟩
  · have named : IsPlaceName "places/a-1_B" := (isPlaceName_iff _).mp (by decide +kernel)
    exact absurd ⟨by decide +kernel, by decide +kernel⟩ (held named rfl)
  · refine ⟨m, sent, get, path, ?_⟩
    rw [query]
    decide +kernel

end Provider

end PlaceGateway
