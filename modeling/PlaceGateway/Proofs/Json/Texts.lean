import PlaceGateway.Proofs.Decimal.Text
import PlaceGateway.Proofs.Digits
import PlaceGateway.Proofs.Json.Escapes
/-! The texts of JSON documents. A document whose numbers are all finite is told by its text, and even by a text
that begins with its own. -/

namespace PlaceGateway.Json

open Decimal (isNumeric StartsWithDigit IsRealText)

variable {c d : Char} {a b rest rest' : List Char} {s t : String} {j j' : Json}

def Ends (rest : List Char) : Prop := ∀ c, rest.head? = some c → isNumeric c = false

theorem numeric_append_inj (numeric : ∀ c ∈ a, isNumeric c = true) (numeric' : ∀ c ∈ b, isNumeric c = true)
    (ends : Ends rest) (ends' : Ends rest') (same : a ++ rest = b ++ rest') : a = b ∧ rest = rest' := by
  have taken {a rest : List Char} (numeric : ∀ c ∈ a, isNumeric c = true) (ends : Ends rest) :
      (a ++ rest).takeWhile isNumeric = a := by
    rw [List.takeWhile_append_of_pos numeric]
    cases rest with
    | nil => simp
    | cons c rest => simp [ends c rfl]
  have fronts := taken numeric ends
  rw [same, taken numeric' ends'] at fronts
  subst fronts
  exact ⟨rfl, List.append_cancel_left same⟩

theorem toList_toString_int (i : Int) :
    (toString i).toList = (if decide (i < 0) then ['-'] else []) ++ Nat.toDigits 10 i.natAbs := by
  cases i with
  | ofNat n =>
      change (Nat.repr n).toList = _
      rw [Nat.toList_repr]
      simp
  | negSucc n =>
      change ("-" ++ Nat.repr (n + 1)).toList = _
      rw [String.toList_append, Nat.toList_repr]
      simp

theorem toDigits_first (n : Nat) : StartsWithDigit (Nat.toDigits 10 n) := by
  have first := (Decimal.toDigits_allDigits n).first Nat.toDigits_ne_nil []
  rwa [List.append_nil] at first

theorem toString_int_plain (i : Int) : ∀ c ∈ (toString i).toList, isNumeric c = true ∧ c ≠ '.' ∧ c ≠ 'e' := by
  intro c member
  rw [toList_toString_int] at member
  rcases List.mem_append.mp member with member | member
  · split at member
    · cases List.mem_singleton.mp member
      decide
    · cases member
  · have digit := Decimal.toDigits_allDigits _ c member
    refine ⟨(Decimal.toDigits_allDigits _).numeric c member, ?_, ?_⟩
    · rintro rfl
      cases digit
    · rintro rfl
      cases digit

theorem toString_int_numeric (i : Int) : ∀ c ∈ (toString i).toList, isNumeric c = true :=
  fun c member => (toString_int_plain i c member).1

theorem jsonText_numeric (x : Binary64) : ∀ c ∈ (Decimal.jsonText x).toList, isNumeric c = true := by
  intro c member
  rw [Decimal.toList_jsonText] at member
  rcases List.mem_append.mp member with member | member
  · split at member
    · cases List.mem_singleton.mp member
      decide
    · cases member
  · exact (Decimal.unsignedText_spec x).1.numeric c member

theorem toString_int_ne_jsonText (i : Int) (x : Binary64) :
    (toString i).toList ≠ (Decimal.jsonText x).toList := by
  intro same
  have plain := toString_int_plain i
  rw [same, Decimal.toList_jsonText] at plain
  rcases (Decimal.unsignedText_spec x).1.marked with point | power
  · exact (plain '.' (List.mem_append_right _ point)).2.1 rfl
  · exact (plain 'e' (List.mem_append_right _ power)).2.2 rfl

inductive IsFinite : Json → Prop where
  | null : IsFinite null
  | flag (value : Bool) : IsFinite (flag value)
  | integer (value : Int) : IsFinite (integer value)
  | real (value : Binary64) (finite : value.isFinite = true) : IsFinite (real value)
  | text (value : String) : IsFinite (text value)
  | list (items : List Json) (finite : ∀ item ∈ items, IsFinite item) : IsFinite (list items)
  | record (members : List (String × Json)) (finite : ∀ m ∈ members, IsFinite m.2) : IsFinite (record members)

/-- What kind of value the first character of a text tells. -/
inductive Lead where
  | null
  | flag
  | number
  | text
  | list
  | record
  deriving DecidableEq

def lead : Json → Lead
  | null => .null
  | flag _ => .flag
  | integer _ | real _ => .number
  | text _ => .text
  | list _ => .list
  | record _ => .record

def leadOf (c : Char) : Option Lead :=
  if c.isDigit || c == '-' then some .number
  else [('n', Lead.null), ('t', .flag), ('f', .flag), ('"', .text), ('[', .list), ('\x7b', .record)].lookup c

theorem leadOf_signed {sign : Bool} {cs : List Char} (first : StartsWithDigit cs) :
    ∃ c rest, (if sign then ['-'] else []) ++ cs = c :: rest ∧ leadOf c = some .number := by
  rcases first with ⟨d, rest, rfl, digit⟩
  cases sign with
  | true => exact ⟨'-', d :: rest, rfl, rfl⟩
  | false => exact ⟨d, rest, rfl, by simp [leadOf, digit]⟩

theorem chars_lead (finite : IsFinite j) : ∃ c rest, j.chars = c :: rest ∧ leadOf c = some j.lead := by
  cases finite with
  | null => exact ⟨_, _, by rw [chars], rfl⟩
  | flag value => cases value <;> exact ⟨_, _, by rw [chars], rfl⟩
  | integer value =>
      rw [chars, toList_toString_int]
      exact leadOf_signed (toDigits_first _)
  | real value finite =>
      rw [chars, if_pos finite, Decimal.toList_jsonText]
      exact leadOf_signed (Decimal.unsignedText_spec value).1.first
  | text value => exact ⟨_, _, by rw [chars, quote, List.cons_append], rfl⟩
  | list items =>
      cases items with
      | nil => exact ⟨_, _, by rw [chars], rfl⟩
      | cons item items => exact ⟨_, _, by rw [chars, List.cons_append], rfl⟩
  | record members =>
      cases members with
      | nil => exact ⟨_, _, by rw [chars], rfl⟩
      | cons m members => exact ⟨_, _, by rw [chars, List.cons_append, List.cons_append], rfl⟩

def Told (j : Json) : Prop :=
  ∀ j' rest rest', IsFinite j' → Ends rest → Ends rest' → j.chars ++ rest = j'.chars ++ rest' →
    j = j' ∧ rest = rest'

theorem lead_eq (finite : IsFinite j) (finite' : IsFinite j') (same : j.chars ++ rest = j'.chars ++ rest') :
    j.lead = j'.lead := by
  rcases chars_lead finite with ⟨c, cs, front, lead⟩
  rcases chars_lead finite' with ⟨c', cs', front', lead'⟩
  rw [front, front', List.cons_append, List.cons_append] at same
  rw [(List.cons.inj same).1, lead'] at lead
  exact (Option.some.inj lead).symm

theorem ends_tailChars (items : List Json) (rest : List Char) : Ends (tailChars items ++ rest) := by
  intro c head
  cases items with
  | nil =>
      cases head
      rfl
  | cons item items =>
      cases head
      rfl

theorem ends_memberTailChars (members : List (String × Json)) (rest : List Char) :
    Ends (memberTailChars members ++ rest) := by
  intro c head
  cases members with
  | nil =>
      cases head
      rfl
  | cons m members =>
      cases head
      rfl

theorem tailChars_append_inj {items items' : List Json} (told : ∀ item ∈ items, Told item)
    (finite' : ∀ item ∈ items', IsFinite item) (same : tailChars items ++ rest = tailChars items' ++ rest') :
    items = items' ∧ rest = rest' := by
  induction items generalizing items' with
  | nil =>
      cases items' with
      | nil => exact ⟨rfl, (List.cons.inj same).2⟩
      | cons item' items' => cases (List.cons.inj same).1
  | cons item items ih =>
      rcases List.forall_mem_cons.mp told with ⟨first, others⟩
      cases items' with
      | nil => cases (List.cons.inj same).1
      | cons item' items' =>
          rcases List.forall_mem_cons.mp finite' with ⟨first', others'⟩
          simp only [tailChars, List.cons_append, List.append_assoc, List.cons.injEq, true_and] at same
          rcases first item' _ _ first' (ends_tailChars _ _) (ends_tailChars _ _) same with ⟨rfl, later⟩
          rcases ih others others' later with ⟨rfl, after⟩
          exact ⟨rfl, after⟩

theorem memberTailChars_append_inj {members members' : List (String × Json)} (told : ∀ m ∈ members, Told m.2)
    (finite' : ∀ m ∈ members', IsFinite m.2)
    (same : memberTailChars members ++ rest = memberTailChars members' ++ rest') :
    members = members' ∧ rest = rest' := by
  induction members generalizing members' with
  | nil =>
      cases members' with
      | nil => exact ⟨rfl, (List.cons.inj same).2⟩
      | cons m' members' => cases (List.cons.inj same).1
  | cons m members ih =>
      rcases List.forall_mem_cons.mp told with ⟨first, others⟩
      cases members' with
      | nil => cases (List.cons.inj same).1
      | cons m' members' =>
          rcases List.forall_mem_cons.mp finite' with ⟨first', others'⟩
          rcases m with ⟨name, value⟩
          rcases m' with ⟨name', value'⟩
          simp only [memberTailChars, List.cons_append, List.append_assoc, List.cons.injEq, true_and] at same
          rcases quote_append_inj same with ⟨rfl, colon⟩
          rcases first value' _ _ first' (ends_memberTailChars _ _) (ends_memberTailChars _ _)
            (List.cons.inj colon).2 with ⟨rfl, later⟩
          rcases ih others others' later with ⟨rfl, after⟩
          exact ⟨rfl, after⟩

/-- But for its first character, a list is what its items would be behind other items. -/
theorem tailChars_cons (item : Json) (items : List Json) (rest : List Char) :
    tailChars (item :: items) ++ rest = ',' :: ((list (item :: items)).chars ++ rest).tail := by
  simp [chars, tailChars]

theorem memberTailChars_cons (m : String × Json) (members : List (String × Json)) (rest : List Char) :
    memberTailChars (m :: members) ++ rest = ',' :: ((record (m :: members)).chars ++ rest).tail := by
  simp [chars, memberTailChars]

theorem list_nil_ne {item : Json} (finite : IsFinite item) (items : List Json) (rest rest' : List Char) :
    (list []).chars ++ rest ≠ (list (item :: items)).chars ++ rest' := by
  intro same
  rcases chars_lead finite with ⟨c, cs, front, lead⟩
  simp only [chars, front, List.cons_append, List.cons.injEq, true_and] at same
  rw [← same.1] at lead
  cases lead

theorem record_nil_ne (m : String × Json) (members : List (String × Json)) (rest rest' : List Char) :
    (record []).chars ++ rest ≠ (record (m :: members)).chars ++ rest' := by
  simp [chars, quote]

theorem told_list {items : List Json} (finite : ∀ item ∈ items, IsFinite item)
    (told : ∀ item ∈ items, Told item) :
    Told (list items) := by
  intro j' rest rest' finite' ends ends' same
  have lead := lead_eq (.list items finite) finite' same
  cases finite' with
  | list items' finite' =>
      cases items with
      | nil =>
          cases items' with
          | nil => exact ⟨rfl, List.append_cancel_left same⟩
          | cons item' items' => exact absurd same (list_nil_ne (finite' item' List.mem_cons_self) _ _ _)
      | cons item items =>
          cases items' with
          | nil => exact absurd same.symm (list_nil_ne (finite item List.mem_cons_self) _ _ _)
          | cons item' items' =>
              have tails := congrArg (fun cs => ',' :: cs.tail) same
              rw [← tailChars_cons, ← tailChars_cons] at tails
              rcases tailChars_append_inj told finite' tails with ⟨same, after⟩
              exact ⟨congrArg Json.list same, after⟩
  | null | flag | integer | real | text | record => cases lead

theorem told_record {members : List (String × Json)} (finite : ∀ m ∈ members, IsFinite m.2)
    (told : ∀ m ∈ members, Told m.2) : Told (record members) := by
  intro j' rest rest' finite' ends ends' same
  have lead := lead_eq (.record members finite) finite' same
  cases finite' with
  | record members' finite' =>
      cases members with
      | nil =>
          cases members' with
          | nil => exact ⟨rfl, List.append_cancel_left same⟩
          | cons m' members' => exact absurd same (record_nil_ne _ _ _ _)
      | cons m members =>
          cases members' with
          | nil => exact absurd same.symm (record_nil_ne _ _ _ _)
          | cons m' members' =>
              have tails := congrArg (fun cs => ',' :: cs.tail) same
              rw [← memberTailChars_cons, ← memberTailChars_cons] at tails
              rcases memberTailChars_append_inj told finite' tails with ⟨same, after⟩
              exact ⟨congrArg Json.record same, after⟩
  | null | flag | integer | real | text | list => cases lead

theorem IsFinite.told (finite : IsFinite j) : Told j := by
  -- The first character leaves one kind for the other document, or two where a number begins.
  induction finite with
  | list items finite told => exact told_list finite told
  | record members finite told => exact told_record finite told
  | null =>
      intro j' rest rest' finite' ends ends' same
      have lead := lead_eq .null finite' same
      cases finite' with
      | null => exact ⟨rfl, List.append_cancel_left same⟩
      | flag | integer | real | text | list | record => cases lead
  | flag value =>
      intro j' rest rest' finite' ends ends' same
      have lead := lead_eq (.flag value) finite' same
      cases finite' with
      | flag value' =>
          cases value <;> cases value'
          · exact ⟨rfl, List.append_cancel_left same⟩
          · cases (List.cons.inj same).1
          · cases (List.cons.inj same).1
          · exact ⟨rfl, List.append_cancel_left same⟩
      | null | integer | real | text | list | record => cases lead
  | integer value =>
      intro j' rest rest' finite' ends ends' same
      have lead := lead_eq (.integer value) finite' same
      cases finite' with
      | integer value' =>
          rcases numeric_append_inj (toString_int_numeric value) (toString_int_numeric value') ends ends'
            same with ⟨texts, after⟩
          exact ⟨congrArg Json.integer (Digits.toString_int_injective (String.toList_inj.mp texts)), after⟩
      | real value' finite' =>
          rw [chars, chars, if_pos finite'] at same
          rcases numeric_append_inj (toString_int_numeric value) (jsonText_numeric value') ends ends' same with
            ⟨texts, _⟩
          exact absurd texts (toString_int_ne_jsonText value value')
      | null | flag | text | list | record => cases lead
  | real value finite =>
      intro j' rest rest' finite' ends ends' same
      have lead := lead_eq (.real value finite) finite' same
      cases finite' with
      | integer value' =>
          rw [chars, chars, if_pos finite] at same
          rcases numeric_append_inj (jsonText_numeric value) (toString_int_numeric value') ends ends' same with
            ⟨texts, _⟩
          exact absurd texts.symm (toString_int_ne_jsonText value' value)
      | real value' finite' =>
          rw [chars, chars, if_pos finite, if_pos finite'] at same
          rcases numeric_append_inj (jsonText_numeric value) (jsonText_numeric value') ends ends' same with
            ⟨texts, after⟩
          exact ⟨congrArg Json.real (Decimal.jsonText_injective (String.toList_inj.mp texts)), after⟩
      | null | flag | text | list | record => cases lead
  | text value =>
      intro j' rest rest' finite' ends ends' same
      have lead := lead_eq (.text value) finite' same
      cases finite' with
      | text value' =>
          rw [chars, chars] at same
          rcases quote_append_inj same with ⟨rfl, after⟩
          exact ⟨rfl, after⟩
      | null | flag | integer | real | list | record => cases lead

theorem render_injective (finite : IsFinite j) (finite' : IsFinite j') (same : j.render = j'.render) :
    j = j' := by
  have chars : j.chars ++ [] = j'.chars ++ [] := by
    rw [List.append_nil, List.append_nil]
    exact String.ofList_injective same
  exact (finite.told j' [] [] finite' nofun nofun chars).1

end PlaceGateway.Json
