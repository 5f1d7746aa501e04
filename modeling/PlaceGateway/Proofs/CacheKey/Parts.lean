import PlaceGateway.Proofs.CacheKey.Digest
import PlaceGateway.Proofs.Digits
/-! What the parts of a request tell about its parameters: each value that is specified, and a list by
its sorted elements joined with commas. -/

namespace PlaceGateway

namespace RequestParams

theorem part_injective {name name' value value' : String} (plain : '=' ∉ name.toList)
    (plain' : '=' ∉ name'.toList) (same : name ++ "=" ++ value = name' ++ "=" ++ value') :
    name = name' ∧ value = value' := by
  have chars := congrArg String.toList same
  simp only [String.toList_append] at chars
  have cut (n v : List Char) (own : '=' ∉ n) :
      (n ++ "=".toList ++ v).splitOn '=' = n :: v.splitOn '=' := by
    rw [List.append_assoc]
    exact List.splitOn_append_cons_self_of_not_mem own v
  have cuts := congrArg (List.splitOn '=') chars
  rw [cut _ _ plain, cut _ _ plain'] at cuts
  have names : name = name' := String.toList_inj.mp (List.cons.inj cuts).1
  subst names
  exact ⟨rfl, (String.append_right_inj _).mp same⟩

theorem eq_of_part? {name part : String} {value : Option ParamValue} (given : part? name value = some part) :
    ∃ text, part = name ++ "=" ++ text := by
  cases value with
  | none => cases given
  | some value =>
      rw [part?] at given
      split at given
      · cases given
      · cases given
        exact ⟨_, rfl⟩

theorem part?_eq_iff (name : String) (u v : ParamValue) :
    part? name (some u) = part? name (some v) ↔
      u.isUnspecified = v.isUnspecified ∧ (u.isUnspecified = false → u.normalize = v.normalize) := by
  rw [part?, part?]
  cases first : u.isUnspecified <;> cases second : v.isUnspecified <;> simp [String.append_right_inj]

theorem part?_text (name a b : String) :
    part? name (some (.text a)) = part? name (some (.text b)) ↔ a = b := by
  rw [part?_eq_iff]
  constructor
  · rintro ⟨empty, same⟩
    by_cases unsaid : a.isEmpty = true
    · have other : b.isEmpty = true := empty.symm.trans unsaid
      rw [String.isEmpty_iff.mp unsaid, String.isEmpty_iff.mp other]
    · exact same (Bool.eq_false_iff.mpr unsaid)
  · rintro rfl
    exact ⟨rfl, fun _ => rfl⟩

theorem part?_flag (name : String) (a b : Bool) :
    part? name (some (.flag a)) = part? name (some (.flag b)) ↔ a = b := by
  rw [part?_eq_iff]
  cases a <;> cases b <;> simp [ParamValue.isUnspecified, ParamValue.normalize]

theorem part?_integer (name : String) (a b : Int) :
    part? name (some (.integer a)) = part? name (some (.integer b)) ↔ a = b := by
  rw [part?_eq_iff]
  constructor
  · rintro ⟨_, same⟩
    exact Digits.toString_int_injective (same rfl)
  · rintro rfl
    exact ⟨rfl, fun _ => rfl⟩

theorem part?_real (name : String) (a b : Binary64) :
    part? name (some (.real a)) = part? name (some (.real b)) ↔ Decimal.keyText a = Decimal.keyText b := by
  rw [part?_eq_iff]
  constructor
  · exact fun same => same.2 rfl
  · exact fun same => ⟨rfl, fun _ => same⟩

theorem parts_cons (name : String) (value : Option ParamValue)
    (rest : List (String × Option ParamValue)) :
    (⟨(name, value) :: rest⟩ : RequestParams).parts =
      (part? name value).toList ++ (⟨rest⟩ : RequestParams).parts := by
  rw [parts, List.filterMap_cons]
  cases part? name value <;> rfl

theorem notMem_parts {name part : String} {value : Option ParamValue}
    (given : part? name value = some part) (own : '=' ∉ name.toList)
    {entries : List (String × Option ParamValue)} (fresh : name ∉ entries.map Prod.fst)
    (plain : ∀ other ∈ entries.map Prod.fst, '=' ∉ other.toList) :
    part ∉ (⟨entries⟩ : RequestParams).parts := by
  intro member
  obtain ⟨⟨other, v⟩, inside, found⟩ := List.mem_filterMap.mp member
  obtain ⟨text, rfl⟩ := eq_of_part? given
  obtain ⟨text', equal⟩ := eq_of_part? found
  have listed : other ∈ entries.map Prod.fst := List.mem_map_of_mem inside
  obtain ⟨rfl, _⟩ := part_injective own (plain other listed) equal
  exact fresh listed

theorem toList_append_eq_iff {a b : Option String} {rest rest' : List String}
    (absent : ∀ part, a = some part → part ∉ rest') (absent' : ∀ part, b = some part → part ∉ rest) :
    a.toList ++ rest = b.toList ++ rest' ↔ a = b ∧ rest = rest' := by
  constructor
  · intro same
    cases a with
    | none =>
        cases b with
        | none => exact ⟨rfl, same⟩
        | some part =>
            have same : rest = part :: rest' := same
            exact absurd (same ▸ List.mem_cons_self) (absent' part rfl)
    | some part =>
        cases b with
        | none =>
            have same : part :: rest = rest' := same
            exact absurd (same ▸ List.mem_cons_self) (absent part rfl)
        | some part' =>
            obtain ⟨rfl, later⟩ := List.cons.inj same
            exact ⟨rfl, later⟩
  · rintro ⟨rfl, rfl⟩
    rfl

theorem parts_eq_iff (entries entries' : List (String × Option ParamValue))
    (names : entries.map Prod.fst = entries'.map Prod.fst) (distinct : (entries.map Prod.fst).Nodup)
    (plain : ∀ name ∈ entries.map Prod.fst, '=' ∉ name.toList) :
    (⟨entries⟩ : RequestParams).parts = (⟨entries'⟩ : RequestParams).parts ↔
      List.Forall₂ (fun entry entry' => part? entry.1 entry.2 = part? entry.1 entry'.2)
        entries entries' := by
  induction entries generalizing entries' with
  | nil =>
      cases entries' with
      | nil => exact ⟨fun _ => .nil, fun _ => rfl⟩
      | cons entry' rest' => cases names
  | cons entry rest ih =>
      cases entries' with
      | nil => cases names
      | cons entry' rest' =>
          obtain ⟨name, value⟩ := entry
          obtain ⟨name', value'⟩ := entry'
          obtain ⟨same, later⟩ := List.cons.inj names
          have same : name = name' := same
          subst same
          obtain ⟨fresh, distinct⟩ := List.nodup_cons.mp distinct
          have own := plain name List.mem_cons_self
          have others (other : String) (member : other ∈ rest.map Prod.fst) : '=' ∉ other.toList :=
            plain other (List.mem_cons_of_mem name member)
          have absent (part : String) (given : part? name value = some part) :
              part ∉ (⟨rest'⟩ : RequestParams).parts :=
            notMem_parts given own (later ▸ fresh) (later ▸ others)
          have absent' (part : String) (given : part? name value' = some part) :
              part ∉ (⟨rest⟩ : RequestParams).parts :=
            notMem_parts given own fresh others
          -- The first part, if there is one, has a name that no later part has.
          rw [parts_cons, parts_cons, toList_append_eq_iff absent absent', List.forall₂_cons,
            ih rest' later distinct others]

theorem forall₂_iff_of_names (entries entries' : List (String × Option ParamValue))
    (names : entries.map Prod.fst = entries'.map Prod.fst) (distinct : (entries.map Prod.fst).Nodup) :
    List.Forall₂ (fun entry entry' => part? entry.1 entry.2 = part? entry.1 entry'.2)
        entries entries' ↔
      ∀ name v v', (name, v) ∈ entries → (name, v') ∈ entries' → part? name v = part? name v' := by
  induction entries generalizing entries' with
  | nil =>
      cases entries' with
      | nil => exact ⟨fun _ _ _ _ member => absurd member List.not_mem_nil, fun _ => .nil⟩
      | cons entry' rest' => cases names
  | cons entry rest ih =>
      cases entries' with
      | nil => cases names
      | cons entry' rest' =>
          obtain ⟨name, value⟩ := entry
          obtain ⟨name', value'⟩ := entry'
          obtain ⟨same, later⟩ := List.cons.inj names
          have same : name = name' := same
          subst same
          obtain ⟨fresh, distinct⟩ := List.nodup_cons.mp distinct
          have fresh' : name ∉ rest'.map Prod.fst := later ▸ fresh
          rw [List.forall₂_cons, ih rest' later distinct]
          constructor
          · rintro ⟨first, others⟩ own v v' member member'
            rcases List.mem_cons.mp member with here | there <;>
              rcases List.mem_cons.mp member' with here' | there'
            · cases here
              cases here'
              exact first
            · cases here
              exact absurd (List.mem_map_of_mem there') fresh'
            · cases here'
              exact absurd (List.mem_map_of_mem there) fresh
            · exact others own v v' there there'
          · intro all
            exact ⟨all name value value' List.mem_cons_self List.mem_cons_self,
              fun own v v' member member' => all own v v' (List.mem_cons_of_mem _ member)
                (List.mem_cons_of_mem _ member')⟩

theorem insertEntry_perm (name : String) (value : Option ParamValue)
    (entries : List (String × Option ParamValue)) (fresh : name ∉ entries.map Prod.fst) :
    (insertEntry name value entries).Perm ((name, value) :: entries) := by
  induction entries with
  | nil => exact .refl _
  | cons entry rest ih =>
      rw [List.map_cons, List.mem_cons, not_or] at fresh
      rw [insertEntry]
      split
      · exact .refl _
      · rw [if_neg (fun same => fresh.1 same.symm)]
        exact ((ih fresh.2).cons entry).trans (.swap _ _ _)

theorem names_insertEntry (name : String) (value value' : Option ParamValue)
    (entries entries' : List (String × Option ParamValue))
    (names : entries.map Prod.fst = entries'.map Prod.fst) :
    (insertEntry name value entries).map Prod.fst =
      (insertEntry name value' entries').map Prod.fst := by
  induction entries generalizing entries' with
  | nil =>
      cases entries' with
      | nil => rfl
      | cons entry' rest' => cases names
  | cons entry rest ih =>
      cases entries' with
      | nil => cases names
      | cons entry' rest' =>
          obtain ⟨own, v⟩ := entry
          obtain ⟨own', v'⟩ := entry'
          obtain ⟨same, later⟩ := List.cons.inj names
          have same : own = own' := same
          subst same
          rw [insertEntry, insertEntry]
          split
          · exact congrArg (name :: own :: ·) later
          · split
            · exact congrArg (name :: ·) later
            · exact congrArg (own :: ·) (ih rest' later)

theorem foldl_insert_perm (additions : List (String × Option ParamValue)) (params : RequestParams)
    (distinct : (additions.map Prod.fst ++ params.entries.map Prod.fst).Nodup) :
    (additions.foldl (fun params addition => params.insert addition.1 addition.2) params).entries.Perm
      (additions ++ params.entries) := by
  induction additions generalizing params with
  | nil => exact .refl _
  | cons addition rest ih =>
      rw [List.map_cons, List.cons_append] at distinct
      obtain ⟨fresh, distinct⟩ := List.nodup_cons.mp distinct
      rw [List.mem_append, not_or] at fresh
      have inserted := insertEntry_perm addition.1 addition.2 params.entries fresh.2
      have names : (rest.map Prod.fst ++
          (params.insert addition.1 addition.2).entries.map Prod.fst).Nodup := by
        have moved : (rest.map Prod.fst ++
            (params.insert addition.1 addition.2).entries.map Prod.fst).Perm
            (addition.1 :: (rest.map Prod.fst ++ params.entries.map Prod.fst)) :=
          ((inserted.map Prod.fst).append_left _).trans List.perm_middle
        refine moved.nodup_iff.mpr (List.nodup_cons.mpr ⟨?_, distinct⟩)
        rw [List.mem_append, not_or]
        exact fresh
      exact (ih _ names).trans ((inserted.append_left rest).trans List.perm_middle)

theorem names_foldl_insert (additions additions' : List (String × Option ParamValue))
    (params params' : RequestParams) (names : additions.map Prod.fst = additions'.map Prod.fst)
    (own : params.entries.map Prod.fst = params'.entries.map Prod.fst) :
    (additions.foldl (fun params addition => params.insert addition.1 addition.2)
        params).entries.map Prod.fst =
      (additions'.foldl (fun params addition => params.insert addition.1 addition.2)
        params').entries.map Prod.fst := by
  induction additions generalizing additions' params params' with
  | nil =>
      cases additions' with
      | nil => exact own
      | cons addition' rest' => cases names
  | cons addition rest ih =>
      cases additions' with
      | nil => cases names
      | cons addition' rest' =>
          obtain ⟨name, v⟩ := addition
          obtain ⟨name', v'⟩ := addition'
          obtain ⟨same, later⟩ := List.cons.inj names
          have same : name = name' := same
          subst same
          exact ih rest' _ _ later (names_insertEntry name v v' _ _ own)

theorem ofList_perm (additions : List (String × Option ParamValue))
    (distinct : (additions.map Prod.fst).Nodup) : (ofList additions).entries.Perm additions := by
  have all := foldl_insert_perm additions empty (by simpa [empty] using distinct)
  rwa [empty, List.append_nil] at all

theorem parts_ofList_eq_iff (additions additions' : List (String × Option ParamValue))
    (names : additions.map Prod.fst = additions'.map Prod.fst)
    (distinct : (additions.map Prod.fst).Nodup)
    (plain : ∀ name ∈ additions.map Prod.fst, '=' ∉ name.toList) :
    (ofList additions).parts = (ofList additions').parts ↔
      List.Forall₂ (fun entry entry' => part? entry.1 entry.2 = part? entry.1 entry'.2)
        additions additions' := by
  have perm := ofList_perm additions distinct
  have perm' := ofList_perm additions' (names ▸ distinct)
  have same : (ofList additions).entries.map Prod.fst = (ofList additions').entries.map Prod.fst :=
    names_foldl_insert additions additions' empty empty names rfl
  have kept := (perm.map Prod.fst).nodup_iff.mpr distinct
  have simple (name : String) (member : name ∈ (ofList additions).entries.map Prod.fst) :
      '=' ∉ name.toList :=
    plain name ((perm.map Prod.fst).mem_iff.mp member)
  rw [parts_eq_iff (ofList additions).entries (ofList additions').entries same kept simple,
    forall₂_iff_of_names _ _ same kept, forall₂_iff_of_names _ _ names distinct]
  constructor
  · exact fun all name v v' member member' =>
      all name v v' (perm.mem_iff.mpr member) (perm'.mem_iff.mpr member')
  · exact fun all name v v' member member' =>
      all name v v' (perm.mem_iff.mp member) (perm'.mem_iff.mp member')

end RequestParams

namespace ParamValue

def sorted (values : List String) : List String := values.mergeSort fun a b => decide (a ≤ b)

/-- Lists that keys do not tell apart: both empty or neither, and alike when sorted and joined. -/
def Alike (a b : List String) : Prop :=
  a.isEmpty = b.isEmpty ∧ ",".intercalate (sorted a) = ",".intercalate (sorted b)

theorem sorted_perm (values : List String) : (sorted values).Perm values := List.mergeSort_perm values _

theorem sorted_eq_of_perm {a b : List String} (perm : a.Perm b) : sorted a = sorted b := by
  have order (values : List String) : (sorted values).Pairwise fun a b => decide (a ≤ b) = true := by
    refine List.pairwise_mergeSort ?_ ?_ values
    · intro x y z first second
      exact decide_eq_true (String.le_trans (of_decide_eq_true first) (of_decide_eq_true second))
    · intro x y
      rcases String.le_total x y with le | le <;> simp [le]
  refine List.Perm.eq_of_pairwise ?_ (order a) (order b)
    ((sorted_perm a).trans (perm.trans (sorted_perm b).symm))
  intro x y _ _ first second
  exact String.le_antisymm (of_decide_eq_true first) (of_decide_eq_true second)

theorem alike_of_perm {a b : List String} (perm : a.Perm b) : Alike a b := by
  refine ⟨?_, by rw [sorted_eq_of_perm perm]⟩
  rw [Bool.eq_iff_iff, List.isEmpty_iff_length_eq_zero, List.isEmpty_iff_length_eq_zero,
    perm.length_eq]

theorem splitOn_join {values : List String} (clean : ∀ text ∈ values, ',' ∉ text.toList)
    (some_ : values ≠ []) : (",".intercalate values).toList.splitOn ',' = values.map String.toList := by
  rw [String.toList_intercalate]
  refine List.splitOn_intercalate ',' ?_ (by simpa using some_)
  intro chars member
  obtain ⟨text, inside, rfl⟩ := List.mem_map.mp member
  exact clean text inside

theorem perm_of_alike {a b : List String} (clean : ∀ text ∈ a, ',' ∉ text.toList)
    (clean' : ∀ text ∈ b, ',' ∉ text.toList) (alike : Alike a b) : a.Perm b := by
  obtain ⟨empty, joined⟩ := alike
  by_cases nothing : a = []
  · subst nothing
    have none : b = [] := List.isEmpty_iff.mp empty.symm
    rw [none]
  · have something : b ≠ [] := by
      rintro rfl
      exact nothing (List.isEmpty_iff.mp empty)
    have cut {values : List String} (clean : ∀ text ∈ values, ',' ∉ text.toList) (some_ : values ≠ []) :
        (",".intercalate (sorted values)).toList.splitOn ',' = (sorted values).map String.toList := by
      refine splitOn_join (fun text member => clean text ((sorted_perm values).mem_iff.mp member)) ?_
      intro none
      have perm := (sorted_perm values).symm
      rw [none] at perm
      exact some_ perm.eq_nil
    have lists : sorted a = sorted b := by
      refine (List.map_inj_right fun _ _ => String.toList_inj.mp).mp ?_
      rw [← cut clean nothing, ← cut clean' something, joined]
    exact (sorted_perm a).symm.trans (lists ▸ sorted_perm b)

end ParamValue

theorem RequestParams.part?_texts (name : String) (a b : List String) :
    part? name (some (.texts a)) = part? name (some (.texts b)) ↔ ParamValue.Alike a b := by
  have written (values : List String) : (ParamValue.texts values).normalize =
      "[" ++ ",".intercalate (ParamValue.sorted values) ++ "]" := rfl
  rw [part?_eq_iff, written, written, String.append_left_inj, String.append_right_inj]
  constructor
  · rintro ⟨empty, joined⟩
    refine ⟨empty, ?_⟩
    cases unsaid : a.isEmpty with
    | true =>
        have none : b.isEmpty = true := empty.symm.trans unsaid
        rw [List.isEmpty_iff.mp unsaid, List.isEmpty_iff.mp none]
    | false => exact joined unsaid
  · exact fun alike => ⟨alike.1, fun _ => alike.2⟩

end PlaceGateway
