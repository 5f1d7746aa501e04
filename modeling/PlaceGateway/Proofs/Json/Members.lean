import PlaceGateway.Json.Shape
/-! What is read from a document, from a list and from a record. What a row holds in a column is what stands under
the name of the column, and members of other names only have to be passed over. -/

namespace PlaceGateway.Json

theorem map_eq_ok_iff {ε α β : Type} {f : α → β} {x : Except ε α} {b : β} :
    x.map f = .ok b ↔ ∃ a, x = .ok a ∧ f a = b := by
  cases x <;> simp [Except.map]

def under (found : List (Option String × Draft)) (name : String) : List Draft :=
  found.filterMap fun m => if m.1 = some name then some m.2 else none

theorem under_cons_self (name : String) (d : Draft) (found : List (Option String × Draft)) :
    under ((some name, d) :: found) name = d :: under found name := by
  simp [under]

theorem under_cons_of_ne {m : Option String × Draft} {name : String} (other : m.1 ≠ some name)
    (found : List (Option String × Draft)) : under (m :: found) name = under found name := by
  simp [under, other]

theorem under_eq_nil {found : List (Option String × Draft)} {name : String}
    (absent : ∀ m ∈ found, m.1 ≠ some name) : under found name = [] := by
  rw [under, List.filterMap_eq_nil_iff]
  intro m member
  exact if_neg (absent m member)

theorem under_filter {keep : Option String × Draft → Bool} {name : String} {found : List (Option String × Draft)}
    (kept : ∀ m ∈ found, m.1 = some name → keep m = true) :
    under (found.filter keep) name = under found name := by
  induction found with
  | nil => rfl
  | cons m found ih =>
      rcases List.forall_mem_cons.mp kept with ⟨first, others⟩
      by_cases own : m.1 = some name
      · have later := ih others
        rw [under, under] at later
        simp [first own, under, own, later]
      · rw [under_cons_of_ne own, List.filter_cons]
        split
        · rw [under_cons_of_ne own, ih others]
        · exact ih others

def Shape.receive {α : Type} (shape : Shape α) : List Draft → Except Fault α
  | [] => .ok shape.absent
  | [d] => shape.read d
  | _ :: _ :: _ => .error .mistyped

def Passes {α : Type} (shape : Shape α) (found : List (Option String × Draft)) (j : Json) (name : String) : Prop :=
  ∃ a, shape.receive (under found name) = .ok a ∧ j.member name = shape.write a

theorem Passes.congr {α : Type} {shape : Shape α} {found : List (Option String × Draft)} {j j' : Json} {name : String}
    (passes : Passes shape found j name) (same : j'.member name = j.member name) : Passes shape found j' name := by
  rcases passes with ⟨a, told, shown⟩
  exact ⟨a, told, same.trans shown⟩

namespace Members

variable {ts : List Type} {t : Type} {members rest : Members ts} {name key : String} {shape : Shape t}
  {found : List (Option String × Draft)} {written : List (String × Json)} {row : Row ts} {slots slots' : Slots ts}
  {slot slot' : Option t} {d : Draft}

def names : {ts : List Type} → Members ts → List String
  | _, nil => []
  | _, cons name _ rest => name :: rest.names

/-- The row holds in every column what stands under the name of the column. -/
def Told (found : List (Option String × Draft)) : {ts : List Type} → Members ts → Row ts → Prop
  | _, nil, _ => True
  | _, cons name shape rest, (a, row) => shape.receive (under found name) = .ok a ∧ rest.Told found row

def Shown (written : List (String × Json)) : {ts : List Type} → Members ts → Row ts → Prop
  | _, nil, _ => True
  | _, cons name shape rest, (a, row) => written.lookup name = some (shape.write a) ∧ rest.Shown written row

def Passed (found : List (Option String × Draft)) (j : Json) : {ts : List Type} → Members ts → Prop
  | _, nil => True
  | _, cons name shape rest => Passes shape found j name ∧ rest.Passed found j

def Accepts (members : Members ts) (m : Option String × Draft) : Prop :=
  ∃ key, m.1 = some key ∧ (key ∈ members.names ∨ m.2.passFault? = none)

theorem Told.congr {found' : List (Option String × Draft)} (told : members.Told found row)
    (same : ∀ name ∈ members.names, under found name = under found' name) : members.Told found' row := by
  induction members with
  | nil => trivial
  | cons name shape rest ih =>
      rcases List.forall_mem_cons.mp same with ⟨own, others⟩
      rcases told with ⟨first, later⟩
      exact ⟨own ▸ first, ih later others⟩

theorem Shown.congr {written' : List (String × Json)} (shown : members.Shown written row)
    (same : ∀ name ∈ members.names, written.lookup name = written'.lookup name) :
    members.Shown written' row := by
  induction members with
  | nil => trivial
  | cons name shape rest ih =>
      rcases List.forall_mem_cons.mp same with ⟨own, others⟩
      rcases shown with ⟨first, later⟩
      exact ⟨own ▸ first, ih later others⟩

theorem map_fst_write (members : Members ts) (row : Row ts) :
    (members.write row).map Prod.fst = members.names := by
  induction members with
  | nil => rfl
  | cons name shape rest ih => exact congrArg (name :: ·) (ih row.2)

theorem Told.passed (told : members.Told found row) (shown : members.Shown written row) :
    members.Passed found (.record written) := by
  induction members with
  | nil => trivial
  | cons name shape rest ih =>
      rcases told with ⟨first, later⟩
      rcases shown with ⟨shown, others⟩
      exact ⟨⟨row.1, first, by simp [member, shown]⟩, ih later others⟩

def Fills (shape : Shape t) (slot : Option t) : List Draft → Option t → Prop
  | [], slot' => slot' = slot
  | d :: ds, slot' => slot = none ∧ ds = [] ∧ ∃ a, shape.read d = .ok a ∧ slot' = some a

theorem put_other (differs : name ≠ key) :
    (cons name shape rest).put key d (slot, slots) = .ok (slot', slots') ↔
      slot' = slot ∧ rest.put key d slots = .ok slots' := by
  simp only [put, if_neg differs]
  cases rest.put key d slots with
  | error fault => simp [Except.map]
  | ok after => simp [Except.map, eq_comm]

theorem put_own :
    (cons name shape rest).put name d (slot, slots) = .ok (slot', slots') ↔
      slot = none ∧ slots' = slots ∧ ∃ a, shape.read d = .ok a ∧ slot' = some a := by
  simp only [put, if_true]
  cases slot with
  | some a => simp
  | none => cases read : shape.read d <;> simp [Except.map, eq_comm, and_comm]

theorem putAll_cons_iff : members.putAll ((some key, d) :: found) slots = .ok slots' ↔
    ∃ between, members.put key d slots = .ok between ∧ members.putAll found between = .ok slots' := by
  rw [putAll]
  cases put : members.put key d slots <;> simp [bind, Except.bind]

theorem putAll_unnamed : members.putAll ((none, d) :: found) slots ≠ .ok slots' := by
  simp [putAll]

theorem putAll_iff : (cons name shape rest).putAll found (slot, slots) = .ok (slot', slots') ↔
    Fills shape slot (under found name) slot' ∧
      rest.putAll (found.filter fun m => m.1 ≠ some name) slots = .ok slots' := by
  -- A member goes into the slot of its name or on to the rest. One without a name goes nowhere, on either side.
  induction found generalizing slot slots with
  | nil => simp [putAll, under, Fills, eq_comm]
  | cons m found ih =>
      rcases m with ⟨_ | key, d⟩
      · have through : ((none, d) :: found).filter (fun m => m.1 ≠ some name) =
            (none, d) :: found.filter fun m => m.1 ≠ some name := by simp
        rw [through]
        exact iff_of_false putAll_unnamed fun both => putAll_unnamed both.2
      rw [putAll_cons_iff]
      by_cases own : key = name
      · subst own
        have skipped : ((some key, d) :: found).filter (fun m => m.1 ≠ some key) =
            found.filter fun m => m.1 ≠ some key := by simp
        have kept (a : t) : Fills shape (some a) (under found key) slot' ↔ under found key = [] ∧ slot' = some a := by
          cases under found key <;> simp [Fills]
        rw [skipped, under_cons_self, Fills]
        constructor
        · rintro ⟨⟨filled, between⟩, put, later⟩
          rcases put_own.mp put with ⟨empty, rfl, a, read, rfl⟩
          rcases ih.mp later with ⟨fills, others⟩
          rcases (kept a).mp fills with ⟨alone, rfl⟩
          exact ⟨⟨empty, alone, a, read, rfl⟩, others⟩
        · rintro ⟨⟨empty, alone, a, read, rfl⟩, others⟩
          exact ⟨(some a, slots), put_own.mpr ⟨empty, rfl, a, read, rfl⟩, ih.mpr ⟨(kept a).mpr ⟨alone, rfl⟩, others⟩⟩
      · have differs : (some key : Option String) ≠ some name := fun same => own (Option.some.inj same)
        have through : ((some key, d) :: found).filter (fun m => m.1 ≠ some name) =
            (some key, d) :: found.filter fun m => m.1 ≠ some name := by simp [own]
        rw [under_cons_of_ne differs, through, putAll_cons_iff]
        constructor
        · rintro ⟨⟨filled, between⟩, put, later⟩
          rcases (put_other (Ne.symm own)).mp put with ⟨rfl, passed⟩
          rcases ih.mp later with ⟨fills, others⟩
          exact ⟨fills, between, passed, others⟩
        · rintro ⟨fills, between, put, others⟩
          exact ⟨(slot, between), (put_other (Ne.symm own)).mpr ⟨rfl, put⟩, ih.mpr ⟨fills, others⟩⟩

theorem putAll_nil_iff {slots slots' : Slots []} :
    nil.putAll found slots = .ok slots' ↔ ∀ m ∈ found, nil.Accepts m := by
  induction found generalizing slots with
  | nil => exact iff_of_true rfl nofun
  | cons m found ih =>
      rw [List.forall_mem_cons]
      rcases m with ⟨_ | key, d⟩
      · refine iff_of_false putAll_unnamed ?_
        rintro ⟨⟨key, named, _⟩, _⟩
        cases named
      · rw [putAll_cons_iff]
        cases fault : d.passFault? with
        | none =>
            have passed : (nil : Members []).put key d slots = .ok slots := by simp only [put, fault]
            constructor
            · rintro ⟨_, _, later⟩
              exact ⟨⟨key, rfl, .inr fault⟩, ih.mp later⟩
            · rintro ⟨_, others⟩
              exact ⟨slots, passed, ih.mpr others⟩
        | some fault => simp [put, fault, Accepts, names]

theorem fills_none_iff (shape : Shape t) (ds : List Draft) (a : t) :
    (∃ slot, Fills shape none ds slot ∧ slot.getD shape.absent = a) ↔ shape.receive ds = .ok a := by
  rcases ds with _ | ⟨d, _ | ⟨d', ds⟩⟩
  · simp [Fills, Shape.receive]
  · constructor
    · rintro ⟨_, ⟨_, _, a, read, rfl⟩, rfl⟩
      exact read
    · intro read
      exact ⟨some a, ⟨rfl, rfl, a, read, rfl⟩, rfl⟩
  · simp [Fills, Shape.receive]

theorem accepts_filter_iff (shape : Shape t) : (∀ m ∈ found.filter fun m => m.1 ≠ some name, rest.Accepts m) ↔
    ∀ m ∈ found, (cons name shape rest).Accepts m := by
  simp only [List.mem_filter, decide_eq_true_eq, Accepts, names, List.mem_cons]
  constructor
  · intro all m member
    by_cases own : m.1 = some name
    · exact ⟨name, own, .inl (.inl rfl)⟩
    · rcases all m ⟨member, own⟩ with ⟨key, named, known | passed⟩
      · exact ⟨key, named, .inl (.inr known)⟩
      · exact ⟨key, named, .inr passed⟩
  · rintro all m ⟨member, other⟩
    rcases all m member with ⟨key, named, (rfl | known) | passed⟩
    · exact absurd named other
    · exact ⟨key, named, .inl known⟩
    · exact ⟨key, named, .inr passed⟩

theorem told_filter_iff (fresh : name ∉ rest.names) {row : Row ts} :
    rest.Told (found.filter fun m => m.1 ≠ some name) row ↔ rest.Told found row := by
  have same : ∀ other ∈ rest.names, under (found.filter fun m => m.1 ≠ some name) other = under found other := by
    intro other member
    apply under_filter
    intro m _ named
    have differs : other ≠ name := fun same => fresh (same ▸ member)
    simpa [named] using differs
  exact ⟨fun told => told.congr same, fun told => told.congr fun other member => (same other member).symm⟩

theorem exists_putAll_iff (distinct : members.names.Nodup) :
    (∃ slots, members.putAll found (Slots.none ts) = .ok slots ∧ members.fill slots = row) ↔
      members.Told found row ∧ ∀ m ∈ found, members.Accepts m := by
  induction members generalizing found with
  | nil =>
      constructor
      · rintro ⟨slots, put, _⟩
        exact ⟨trivial, putAll_nil_iff.mp put⟩
      · rintro ⟨_, accepted⟩
        exact ⟨(), putAll_nil_iff.mpr accepted, rfl⟩
  | @cons t ts name shape rest ih =>
      rcases List.nodup_cons.mp distinct with ⟨fresh, distinct⟩
      rcases row with ⟨a, row⟩
      have others := @ih (found.filter fun m => m.1 ≠ some name) row distinct
      rw [told_filter_iff fresh, accepts_filter_iff shape] at others
      have own := fills_none_iff shape (under found name) a
      constructor
      · rintro ⟨⟨slot, slots⟩, put, filled⟩
        rcases putAll_iff.mp put with ⟨fills, later⟩
        rcases Prod.mk.inj filled with ⟨first, second⟩
        rcases others.mp ⟨slots, later, second⟩ with ⟨told, accepted⟩
        exact ⟨⟨own.mp ⟨slot, fills, first⟩, told⟩, accepted⟩
      · rintro ⟨⟨first, told⟩, accepted⟩
        rcases own.mpr first with ⟨slot, fills, rfl⟩
        rcases others.mpr ⟨told, accepted⟩ with ⟨slots, later, rfl⟩
        exact ⟨(slot, slots), putAll_iff.mpr ⟨fills, later⟩, rfl⟩

/-- A record is read as the row that it tells, if a reader of the columns gets past all its members. -/
theorem read_record_iff (distinct : members.names.Nodup) {ending : Option Break} :
    members.read (.record found ending) = .ok row ↔
      ending = none ∧ members.Told found row ∧ ∀ m ∈ found, members.Accepts m := by
  rw [← exists_putAll_iff distinct, read]
  cases filled : members.putAll found (Slots.none ts) with
  | error fault => simp [bind, Except.bind]
  | ok slots => cases ending <;> simp [bind, Except.bind, pure, Except.pure, throw, throwThe, MonadExceptOf.throw]

end Members

namespace Shape

variable {α : Type} {shape : Shape α} {d : Draft}

theorem record_read_iff {ts : List Type} {columns : Columns α ts} {members : Members ts} {a : α} :
    (record columns members).read d = .ok a ↔ members.read d = .ok (columns.toRow a) := by
  refine map_eq_ok_iff.trans ⟨?_, fun read => ⟨_, read, columns.ofRow_toRow a⟩⟩
  rintro ⟨row, read, rfl⟩
  rw [read, columns.toRow_ofRow]

theorem readAll_cons_iff {ds : List Draft} {as : List α} : shape.readAll (d :: ds) = .ok as ↔
    ∃ a rest, shape.read d = .ok a ∧ shape.readAll ds = .ok rest ∧ as = a :: rest := by
  rw [readAll]
  cases shape.read d <;> cases shape.readAll ds <;> simp [bind, Except.bind, pure, Except.pure, eq_comm]

theorem list_read_iff {as : List α} :
    (list shape).read d = .ok as ↔ ∃ items, d = .list items none ∧ shape.readAll items = .ok as := by
  cases d with
  | list items ending =>
      simp only [list]
      cases ending <;> cases read : shape.readAll items <;>
        simp [bind, Except.bind, pure, Except.pure, throw, throwThe, MonadExceptOf.throw, read]
  | null | flag | number | text | record | broken => simp [list]

theorem readDocument_iff {s : Bytes} {a : α} : shape.readDocument s = .ok a ↔
    shape.read (Draft.ofBytes s).1 = .ok a ∧ Draft.skipBlank ((Draft.ofBytes s).2.getD []) = [] := by
  rw [readDocument]
  cases read : shape.read (Draft.ofBytes s).1 with
  | error fault => simp [bind, Except.bind, read]
  | ok b =>
      by_cases ended : Draft.skipBlank ((Draft.ofBytes s).2.getD []) = [] <;>
        simp [bind, Except.bind, pure, Except.pure, throw, throwThe, MonadExceptOf.throw, read, ended]

end Shape

end PlaceGateway.Json
