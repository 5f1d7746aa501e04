import PlaceGateway.Proofs.Json.Members
import PlaceGateway.Proofs.Json.Scan
/-! Shapes whose values come back from their texts. A double does if the text of the number itself does. -/

namespace PlaceGateway.Json

variable {α : Type} {ts : List Type}

/-- The text of a good value is read as the canonical form of the value. -/
def Shape.Restores (shape : Shape α) (Good : α → Prop) (canonical : α → α) : Prop :=
  ∀ a, Good a → ∃ d, (shape.write a).Scans d ∧ shape.read d = .ok (canonical a)

def Members.Restores (members : Members ts) (Good : Row ts → Prop) (canonical : Row ts → Row ts) : Prop :=
  members.names.Nodup → ∀ row, Good row →
    ∃ found, List.Forall₂ MemberScans (members.write row) found ∧ members.Told found (canonical row)

abbrev Shape.Plain (shape : Shape α) : Prop := shape.Restores (fun _ => True) id

def ParsesBack (x : Binary64) : Prop := Shape.real.readDocument (Bytes.ofText (Decimal.jsonText x)) = .ok x

theorem gather_digits (cs : List Char) (n : Nat) (small : Nat.ofDigitChars 10 cs n < 2 ^ 64) :
    Numeral.gather n (cs.map fun c => c.toNat - '0'.toNat) = (Nat.ofDigitChars 10 cs n, []) := by
  induction cs generalizing n with
  | nil => simp [Numeral.gather]
  | cons c cs ih =>
      rw [Nat.ofDigitChars_cons] at small ⊢
      have grows := Digits.le_ofDigitChars cs (10 * n + (c.toNat - '0'.toNat))
      rw [List.map_cons, Numeral.gather, Nat.mul_comm n, if_pos (Nat.lt_of_le_of_lt grows small), ih _ small]

theorem number?_digits {i : Int} (small : i.natAbs < 2 ^ 63) : Numeral.number?
    ⟨decide (i < 0), (Nat.toDigits 10 i.natAbs).map fun c => c.toNat - '0'.toNat, [], none⟩ = some (.integer i) := by
  have gathered := gather_digits (Nat.toDigits 10 i.natAbs) 0 (by rw [Nat.ofDigitChars_ten_toDigits]; omega)
  rw [Nat.ofDigitChars_ten_toDigits] at gathered
  simp only [Numeral.number?, gathered]
  by_cases negative : i < 0
  · rw [if_pos (decide_eq_true negative), if_neg (by omega)]
    congr 2
    omega
  · rw [if_neg (by simpa using negative)]
    congr 2
    omega

namespace Shape

variable {shape : Shape α} {Good Good' : α → Prop} {canonical canonical' : α → α}

theorem Restores.congr (restores : shape.Restores Good canonical) (good : ∀ a, Good' a → Good a)
    (same : ∀ a, canonical a = canonical' a) : shape.Restores Good' canonical' := by
  intro a isGood
  rw [← same]
  exact restores a (good a isGood)

theorem Restores.readDocument (restores : shape.Restores Good canonical) {a : α} (good : Good a) :
    shape.readDocument (Bytes.ofText (shape.write a).render) = .ok (canonical a) := by
  rcases restores a good with ⟨d, scans, read⟩
  rw [readDocument_iff, scans.ofBytes]
  exact ⟨read, rfl⟩

theorem text_plain : text.Plain := fun s _ => ⟨_, text_scans s, rfl⟩

theorem flag_plain : flag.Plain := fun b _ => ⟨_, flag_scans b, rfl⟩

theorem int32_plain : int32.Plain := by
  intro i _
  refine ⟨_, integer_scans i.toInt, ?_⟩
  have low := i.le_toInt
  have high := i.toInt_lt
  simp only [int32]
  rw [number?_digits (by omega)]
  simp only [if_pos (And.intro i.minValue_le_toInt i.toInt_le), Int32.ofInt_toInt]
  rfl

theorem real_restores : real.Restores (fun x => x.isFinite = true ∧ ParsesBack x) id := by
  rintro x ⟨finite, parses⟩
  have text := Decimal.toList_jsonText x
  have first := (Decimal.unsignedText_spec x).1.first
  have numeric := (Decimal.unsignedText_spec x).1.numeric
  have bytes : Bytes.ofText (Decimal.jsonText x) = Bytes.ofChars (Decimal.jsonText x).toList :=
    Bytes.ofText_eq_flatMap _
  have whole : Draft.ofBytes (Bytes.ofText (Decimal.jsonText x)) =
      Draft.scanNumber x.isNegative (Bytes.ofChars (Decimal.unsignedText x)) := by
    rw [Draft.ofBytes, bytes, text, ← List.append_nil (Bytes.ofChars (_ ++ _)), scanValue_signed first, List.append_nil]
  rcases readDocument_iff.mp parses with ⟨read, ended⟩
  rw [whole] at read ended
  rcases scanned : Draft.scanNumber x.isNegative (Bytes.ofChars (Decimal.unsignedText x)) with ⟨d, left⟩
  rw [scanned] at read ended
  cases d with
  | number n =>
      cases left with
      | none => exact absurd scanned scanNumber_ends
      | some t =>
          have none_ : t = [] := skipBlank_numeric numeric (scanNumber_leaves scanned).1 ended
          rw [none_] at scanned
          refine ⟨.number n, number_scans ?_ first scanned, read⟩
          change (if x.isFinite then _ else _) = _
          rw [if_pos finite, text]
  | _ => cases read

theorem Restores.optional (restores : shape.Restores Good canonical) (some_ : ∀ a, shape.read .null ≠ .ok a) :
    (Shape.optional shape).Restores (fun o => ∀ a, o = some a → Good a) (Option.map canonical) := by
  intro o good
  cases o with
  | none => exact ⟨.null, null_scans, rfl⟩
  | some a =>
      rcases restores a (good a rfl) with ⟨d, scans, read⟩
      refine ⟨d, scans, ?_⟩
      cases d with
      | null => exact absurd read (some_ _)
      | flag | number | text | list | record | broken => exact map_eq_ok_iff.mpr ⟨_, read, rfl⟩

theorem Restores.list (restores : shape.Restores Good canonical) :
    (Shape.list shape).Restores (fun as => ∀ a ∈ as, Good a) (List.map canonical) := by
  intro as good
  have each : ∃ ds, List.Forall₂ Scans (as.map shape.write) ds ∧ shape.readAll ds = .ok (as.map canonical) := by
    induction as with
    | nil => exact ⟨[], .nil, rfl⟩
    | cons a as ih =>
        rcases List.forall_mem_cons.mp good with ⟨first, others⟩
        rcases restores a first with ⟨d, scans, read⟩
        rcases ih others with ⟨ds, scanned, all⟩
        exact ⟨d :: ds, .cons scans scanned, readAll_cons_iff.mpr ⟨_, _, read, all, rfl⟩⟩
  rcases each with ⟨ds, scans, read⟩
  exact ⟨.list ds none, list_scans scans, list_read_iff.mpr ⟨ds, rfl, read⟩⟩

theorem Restores.plain (restores : shape.Restores Good canonical) (good : ∀ a, Good a) (same : ∀ a, canonical a = a) :
    shape.Plain := restores.congr (fun a _ => good a) same

theorem Plain.optional (plain : shape.Plain) (some_ : ∀ a, shape.read .null ≠ .ok a) : (Shape.optional shape).Plain :=
  (Restores.optional plain some_).plain (fun _ _ _ => trivial) fun _ => congrFun Option.map_id _

theorem Plain.list (plain : shape.Plain) : (Shape.list shape).Plain :=
  (Restores.list plain).plain (fun _ _ _ => trivial) fun _ => List.map_id _

theorem named_plain {absent : α} {name : α → String} {ofName? : String → Option α}
    (told : ∀ a, ofName? (name a) = some a) : (Shape.named absent name ofName?).Plain := by
  intro a _
  refine ⟨_, text_scans (name a), ?_⟩
  simp only [named, told]
  rfl

end Shape

namespace Members

theorem named_of_scans {members : Members ts} {row : Row ts} {found : List (Option String × Draft)}
    (scans : List.Forall₂ MemberScans (members.write row) found) :
    ∀ f ∈ found, ∃ name ∈ members.names, f.1 = some name := by
  intro f member
  rcases MemberScans.named scans f member with ⟨m, own, named⟩
  refine ⟨m.1, ?_, named⟩
  rw [← map_fst_write members row]
  exact List.mem_map_of_mem own

theorem nil_restores : (nil : Members []).Restores (fun _ => True) id := fun _ _ _ => ⟨[], .nil, trivial⟩

theorem Restores.cons {t : Type} {shape : Shape t} {rest : Members ts} {Good : t → Prop} {canonical : t → t}
    {Goods : Row ts → Prop} {canonicals : Row ts → Row ts} {name : String}
    (own : shape.Restores Good canonical) (later : rest.Restores Goods canonicals) :
    (Members.cons name shape rest).Restores (fun row => Good row.1 ∧ Goods row.2)
      (fun row => (canonical row.1, canonicals row.2)) := by
  rintro distinct ⟨a, row⟩ ⟨good, goods⟩
  rcases List.nodup_cons.mp distinct with ⟨fresh, distinct⟩
  rcases own a good with ⟨d, scans, read⟩
  rcases later distinct row goods with ⟨found, scanned, told⟩
  have unnamed : ∀ f ∈ found, f.1 ≠ some name := by
    intro f member same
    rcases named_of_scans scanned f member with ⟨other, known, named⟩
    exact fresh (Option.some.inj (same.symm.trans named) ▸ known)
  refine ⟨(some name, d) :: found, .cons ⟨rfl, scans⟩ scanned, ?_, ?_⟩
  · rw [under_cons_self, under_eq_nil unnamed]
    exact read
  · apply told.congr
    intro other member
    have differs : (some name : Option String) ≠ some other := by
      intro same
      exact fresh (Option.some.inj same ▸ member)
    rw [under_cons_of_ne differs]

theorem Restores.beside {t : Type} {shape : Shape t} {rest : Members ts} {Goods : Row ts → Prop}
    {canonicals : Row ts → Row ts} {name : String} (own : shape.Plain) (later : rest.Restores Goods canonicals) :
    (Members.cons name shape rest).Restores (fun row => Goods row.2) (fun row => (row.1, canonicals row.2)) :=
  fun distinct row good => Restores.cons own later distinct row ⟨trivial, good⟩

end Members

theorem Shape.record_restores {members : Members ts} {Goods : Row ts → Prop} {canonicals : Row ts → Row ts}
    (columns : Columns α ts) (restores : members.Restores Goods canonicals) (distinct : members.names.Nodup) :
    (Shape.record columns members).Restores (fun a => Goods (columns.toRow a))
      (fun a => columns.ofRow (canonicals (columns.toRow a))) := by
  intro a good
  rcases restores distinct (columns.toRow a) good with ⟨found, scans, told⟩
  refine ⟨.record found none, record_scans scans, record_read_iff.mpr ?_⟩
  rw [columns.toRow_ofRow, Members.read_record_iff distinct]
  refine ⟨rfl, told, fun f member => ?_⟩
  rcases Members.named_of_scans scans f member with ⟨name, known, named⟩
  exact ⟨name, named, .inl known⟩

end PlaceGateway.Json
