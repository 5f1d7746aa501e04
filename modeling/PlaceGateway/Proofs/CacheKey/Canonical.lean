import Mathlib.Data.List.Induction
import PlaceGateway.Proofs.Bytes
import PlaceGateway.Proofs.CacheKey.Parts
import PlaceGateway.Proofs.Table
/-! The parts of parameters say for each name what was added under it last, and nothing else: not how and
in which order the parameters came together, and not the order within a list. -/

namespace PlaceGateway

/-- Equal values, or lists of the same texts in any order. Numbers are the same when all their bits are: zero and
negative zero compare as equal, and are written apart. -/
def ParamValue.Same : ParamValue → ParamValue → Prop
  | texts a, texts b => a.Perm b
  | a, b => a = b

namespace RequestParams

/-- How parameters come together: some all at once, others one after the other. -/
inductive Construction where
  | new
  | collect (additions : List (String × Option ParamValue))
  | insert (before : Construction) (name : String) (value : Option ParamValue)
  | add (before : Construction) (name : String) (value : ParamValue)
  | addOption (before : Construction) (name : String) (value : Option ParamValue)

namespace Construction

def build : Construction → RequestParams
  | new => empty
  | collect additions => ofList additions
  | insert before name value | addOption before name value => before.build.insert name value
  | add before name value => before.build.insert name (some value)

def additions : Construction → List (String × Option ParamValue)
  | new => []
  | collect additions => additions
  | insert before name value | addOption before name value => before.additions ++ [(name, value)]
  | add before name value => before.additions ++ [(name, some value)]

end Construction

def last? (additions : List (String × Option ParamValue)) (name : String) : Option ParamValue :=
  (additions.reverse.lookup name).join

def IsUnspecified (value : Option ParamValue) : Prop :=
  value = none ∨ value = some (.text "") ∨ value = some (.texts [])

def Interchangeable (u v : Option ParamValue) : Prop :=
  IsUnspecified u ∧ IsUnspecified v ∨ ∃ a b, u = some a ∧ v = some b ∧ a.Same b

def Sorted {β : Type} (entries : List (String × β)) : Prop :=
  entries.Pairwise fun entry entry' => entry.1 < entry'.1

variable {β : Type} {name : String} {value : Option ParamValue}
  {entries : List (String × Option ParamValue)}

theorem ofList_concat (additions : List (String × Option ParamValue)) (name : String)
    (value : Option ParamValue) :
    ofList (additions ++ [(name, value)]) = (ofList additions).insert name value := by
  rw [ofList, List.foldl_append]
  rfl

theorem Construction.build_eq_ofList (c : Construction) : c.build = ofList c.additions := by
  induction c with
  | new => rfl
  | collect additions => rfl
  | insert before name value ih => rw [build, additions, ofList_concat, ih]
  | add before name value ih => rw [build, additions, ofList_concat, ih]
  | addOption before name value ih => rw [build, additions, ofList_concat, ih]

theorem mem_insertEntry {entry : String × Option ParamValue} (member : entry ∈ insertEntry name value entries) :
    entry = (name, value) ∨ entry ∈ entries := by
  induction entries with
  | nil => exact .inl (List.mem_singleton.mp member)
  | cons first rest ih =>
      rw [insertEntry] at member
      split at member
      · exact List.mem_cons.mp member
      · split at member
        · rcases List.mem_cons.mp member with here | behind
          · exact .inl here
          · exact .inr (List.mem_cons_of_mem first behind)
        · rcases List.mem_cons.mp member with here | behind
          · exact .inr (here ▸ List.mem_cons_self)
          · exact (ih behind).imp_right (List.mem_cons_of_mem first)

theorem Sorted.insertEntry (sorted : Sorted entries) (name : String) (value : Option ParamValue) :
    Sorted (insertEntry name value entries) := by
  induction entries with
  | nil => exact List.pairwise_singleton _ _
  | cons entry rest ih =>
      obtain ⟨first, later⟩ := List.pairwise_cons.mp sorted
      rw [RequestParams.insertEntry]
      split
      · rename_i before
        refine List.pairwise_cons.mpr ⟨fun other member => ?_, sorted⟩
        rcases List.mem_cons.mp member with here | behind
        · exact here ▸ before
        · exact String.lt_trans before (first other behind)
      split
      · rename_i same
        exact List.pairwise_cons.mpr ⟨fun other member => same ▸ first other member, later⟩
      · rename_i notBefore different
        have after : entry.1 < name := by
          by_contra notAfter
          exact different (String.le_antisymm (String.not_lt.mp notBefore) (String.not_lt.mp notAfter))
        refine List.pairwise_cons.mpr ⟨fun other member => ?_, ih later⟩
        rcases mem_insertEntry member with here | there
        · exact here ▸ after
        · exact first other there

theorem lookup_insertEntry (name other : String) (value : Option ParamValue)
    (entries : List (String × Option ParamValue)) :
    (insertEntry name value entries).lookup other =
      if other = name then some value else entries.lookup other := by
  induction entries with
  | nil => exact Table.lookup_cons_ite _ _ _ _
  | cons entry rest ih =>
      obtain ⟨own, v⟩ := entry
      rw [insertEntry]
      split
      · exact Table.lookup_cons_ite _ _ _ _
      split
      · rename_i same
        rw [Table.lookup_cons_ite, Table.lookup_cons_ite, show own = name from same]
        split <;> rfl
      · rename_i different
        rw [Table.lookup_cons_ite, Table.lookup_cons_ite, ih]
        by_cases here : other = own
        · rw [if_pos here, if_neg fun same => different (here ▸ same), if_pos here]
        · rw [if_neg here, if_neg here]

theorem sorted_ofList (additions : List (String × Option ParamValue)) : Sorted (ofList additions).entries := by
  induction additions using List.reverseRecOn with
  | nil => exact List.Pairwise.nil
  | append_singleton before addition ih =>
      rw [ofList_concat]
      exact ih.insertEntry addition.1 addition.2

theorem lookup_ofList (additions : List (String × Option ParamValue)) (name : String) :
    (ofList additions).entries.lookup name = additions.reverse.lookup name := by
  induction additions using List.reverseRecOn with
  | nil => rfl
  | append_singleton before addition ih =>
      obtain ⟨own, value⟩ := addition
      rw [ofList_concat, List.reverse_concat, Table.lookup_cons_ite, ← ih]
      exact lookup_insertEntry own name value _

def select (make : String → Option ParamValue → Option β) (entries : List (String × Option ParamValue)) :
    List (String × β) :=
  entries.filterMap fun entry => (make entry.1 entry.2).map (entry.1, ·)

theorem Sorted.select (sorted : Sorted entries) (make : String → Option ParamValue → Option β) :
    Sorted (select make entries) := by
  refine List.Pairwise.filterMap _ ?_ sorted
  intro entry entry' before b made b' made'
  obtain ⟨_, _, rfl⟩ := Option.map_eq_some_iff.mp made
  obtain ⟨_, _, rfl⟩ := Option.map_eq_some_iff.mp made'
  exact before

theorem Sorted.nodup_names {entries : List (String × β)} (sorted : Sorted entries) :
    (entries.map Prod.fst).Nodup :=
  List.pairwise_map.mpr (sorted.imp fun before => String.ne_of_lt before)

theorem Sorted.nodup {entries : List (String × β)} (sorted : Sorted entries) : entries.Nodup :=
  sorted.nodup_names.of_map _

theorem Sorted.eq_of_mem_iff {l l' : List (String × β)} (sorted : Sorted l) (sorted' : Sorted l')
    (same : ∀ entry, entry ∈ l ↔ entry ∈ l') : l = l' := by
  refine List.Perm.eq_of_pairwise ?_ sorted sorted'
    ((List.perm_ext_iff_of_nodup sorted.nodup sorted'.nodup).mpr same)
  intro entry entry' _ _ before after
  exact absurd after (String.lt_asymm before)

theorem mem_select_ofList {make : String → Option ParamValue → Option β} (nothing : ∀ name, make name none = none)
    (additions : List (String × Option ParamValue)) (name : String) (b : β) :
    (name, b) ∈ select make (ofList additions).entries ↔ make name (last? additions name) = some b := by
  have listed (value : Option ParamValue) : (name, value) ∈ (ofList additions).entries ↔
      additions.reverse.lookup name = some value := by
    rw [← lookup_ofList, Table.lookup_eq_some_iff _ _ _ (sorted_ofList additions).nodup_names]
  rw [select, List.mem_filterMap, last?]
  constructor
  · rintro ⟨⟨own, value⟩, member, made⟩
    obtain ⟨b', made, same⟩ := Option.map_eq_some_iff.mp made
    cases same
    rw [(listed value).mp member]
    exact made
  · intro made
    cases found : additions.reverse.lookup name with
    | none =>
        rw [found, Option.join_none, nothing] at made
        cases made
    | some value =>
        rw [found, Option.join_some] at made
        exact ⟨(name, value), (listed value).mpr found, by rw [made]; rfl⟩

theorem isUnspecified_some_iff (value : ParamValue) :
    IsUnspecified (some value) ↔ value.isUnspecified = true := by
  cases value <;> simp [IsUnspecified, ParamValue.isUnspecified]

theorem part?_of_isUnspecified (name : String) (unsaid : IsUnspecified value) : part? name value = none := by
  rcases unsaid with rfl | rfl | rfl <;> rfl

theorem part?_of_same (name : String) {a b : ParamValue} (same : a.Same b) :
    part? name (some a) = part? name (some b) := by
  cases a with
  | texts values =>
      cases b with
      | texts values' => exact (part?_texts name values values').mpr (ParamValue.alike_of_perm same)
      | text _ | real _ | flag _ | integer _ => cases same
  | text _ | real _ | flag _ | integer _ => rw [show _ = b from same]

theorem part?_of_interchangeable (name : String) {u v : Option ParamValue} (alike : Interchangeable u v) :
    part? name u = part? name v := by
  rcases alike with ⟨unsaid, unsaid'⟩ | ⟨a, b, rfl, rfl, same⟩
  · rw [part?_of_isUnspecified name unsaid, part?_of_isUnspecified name unsaid']
  · exact part?_of_same name same

theorem parts_eq_select (params : RequestParams) : params.parts = (select part? params.entries).map Prod.snd := by
  rw [parts, select, List.map_filterMap]
  refine List.filterMap_congr fun entry _ => ?_
  rw [Option.map_map]
  exact (Option.map_id' ..).symm

def specified (params : RequestParams) : List (String × ParamValue) :=
  select (fun _ value => value.filter (!·.isUnspecified)) params.entries

theorem parts_eq_specified (params : RequestParams) :
    params.parts = params.specified.map fun entry => entry.1 ++ "=" ++ entry.2.normalize := by
  rw [parts, specified, select, List.map_filterMap]
  refine List.filterMap_congr fun entry _ => ?_
  obtain ⟨name, _ | value⟩ := entry
  · rfl
  · rw [part?, Option.filter_some]
    cases value.isUnspecified <;> rfl

theorem mem_specified_ofList (additions : List (String × Option ParamValue)) (name : String)
    (value : ParamValue) :
    (name, value) ∈ (ofList additions).specified ↔
      last? additions name = some value ∧ ¬ IsUnspecified (some value) := by
  rw [specified, mem_select_ofList (fun _ => rfl), isUnspecified_some_iff, Option.filter_eq_some_iff,
    Bool.not_eq_true', Bool.not_eq_true]

/-- Parameters have the same parts, and the same key in every space and for every operation, when what was
added last under each name is unspecified in both or the same in both up to the order of a list; zero and
negative zero are not the same. There is one part for each name whose last value is specified, in order of the
bytes of the names. -/
theorem parts_are_canonical (c c' : Construction) :
    ((∀ name, Interchangeable (last? c.additions name) (last? c'.additions name)) →
      c.build.parts = c'.build.parts ∧
        ∀ (space : KeySpace) (operation : String),
          space.keyOf operation c.build = space.keyOf operation c'.build) ∧
    ∃ named : List (String × ParamValue),
      c.build.parts = named.map (fun entry => entry.1 ++ "=" ++ entry.2.normalize) ∧
      named.Pairwise (fun entry entry' => Bytes.ofText entry.1 < Bytes.ofText entry'.1) ∧
      ∀ name value, (name, value) ∈ named ↔
        last? c.additions name = some value ∧ ¬ IsUnspecified (some value) := by
  constructor
  · intro alike
    have selected : select part? c.build.entries = select part? c'.build.entries := by
      rw [c.build_eq_ofList, c'.build_eq_ofList]
      refine ((sorted_ofList _).select part?).eq_of_mem_iff ((sorted_ofList _).select part?) ?_
      rintro ⟨name, text⟩
      rw [mem_select_ofList (fun _ => rfl), mem_select_ofList (fun _ => rfl),
        part?_of_interchangeable name (alike name)]
    have parts : c.build.parts = c'.build.parts := by
      rw [parts_eq_select, parts_eq_select, selected]
    exact ⟨parts, fun space operation => congrArg (space.key operation) parts⟩
  · refine ⟨c.build.specified, parts_eq_specified _, ?_, ?_⟩
    · have sorted : Sorted c.build.specified := by
        rw [c.build_eq_ofList]
        exact (sorted_ofList c.additions).select _
      exact sorted.imp fun before => Bytes.ofText_lt_ofText_iff.mpr before
    · rw [c.build_eq_ofList]
      exact mem_specified_ofList c.additions

-- Values that only compare as equal are not interchangeable.
example : (ofList [("min", some (.real ⟨0⟩))]).parts = ["min=0"] ∧
    (ofList [("min", some (.real ⟨0x8000000000000000⟩))]).parts = ["min=-0"] := by
  decide +kernel

-- The order is that of the names: a hyphen comes before an equals sign.
example : (ofList [("a-", some (.integer 1)), ("a", some (.integer 2))]).parts = ["a=2", "a-=1"] := by
  decide +kernel

def stepwise : Construction :=
  (((Construction.new.insert "q" (some (.text "pasta"))).add "q" (.text "pizza")).addOption "lang" none).add
    "fields" (.texts ["id", "rating"])

def collected : Construction :=
  (Construction.collect [("fields", some (.texts ["rating", "id"])), ("lang", some (.text "it")),
    ("lang", some (.text ""))]).add "q" (.text "pizza")

theorem parts_are_canonical_stepwise :
    stepwise.build.parts = collected.build.parts ∧
      KeySpace.standard.keyOf "search_text" stepwise.build =
        KeySpace.standard.keyOf "search_text" collected.build := by
  have alike (name : String) :
      Interchangeable (last? stepwise.additions name) (last? collected.additions name) := by
    simp only [last?, stepwise, collected, Construction.additions, List.reverse_cons, List.reverse_nil,
      List.nil_append, List.cons_append, Table.lookup_cons_ite, List.lookup_nil]
    by_cases fields : name = "fields"
    · subst fields
      exact .inr ⟨_, _, rfl, rfl, .swap _ _ _⟩
    by_cases language : name = "lang"
    · subst language
      exact .inl ⟨.inl rfl, .inr (.inl rfl)⟩
    by_cases query : name = "q"
    · subst query
      exact .inr ⟨_, _, rfl, rfl, rfl⟩
    · simp only [if_neg fields, if_neg language, if_neg query]
      exact .inl ⟨.inl rfl, .inl rfl⟩
  obtain ⟨parts, keys⟩ := (parts_are_canonical stepwise collected).1 alike
  exact ⟨parts, keys .standard "search_text"⟩

end RequestParams

end PlaceGateway
