import PlaceGateway.Proofs.Bytes
import PlaceGateway.Url.Percent
/-! Pairs that are written in the form encoding are read back as they were, whatever their texts are. -/

namespace PlaceGateway.Url

variable {pairs : List (String × String)}

def formCode (b : UInt8) : Bytes :=
  ((formByte b).map fun c => if c = '+' then ' ' else c).flatMap String.utf8EncodeChar

def isReadable (b : UInt8) : Bool :=
  match formCode b with
  | [own] => own == b && b != 37
  | [mark, high, low] => mark == 37 && escaped? 37 high low == some b
  | _ => false

theorem readable (b : UInt8) : isReadable b = true := by
  have all : ∀ n < 256, isReadable (UInt8.ofNat n) = true := by decide +kernel
  rw [← UInt8.ofNat_toNat (x := b)]
  exact all b.toNat b.toNat_lt

theorem unescape_of_ne {b : UInt8} (plain : b ≠ 37) (rest : Bytes) :
    unescape (b :: rest) = b :: unescape rest := by
  match rest with
  | [] => simp [unescape]
  | [last] => simp [unescape]
  | high :: low :: rest => simp [unescape, escaped?, plain]

theorem unescape_formCode (b : UInt8) (rest : Bytes) :
    unescape (formCode b ++ rest) = b :: unescape rest := by
  have read := readable b
  rw [isReadable] at read
  split at read
  · rename_i own code
    simp only [Bool.and_eq_true, beq_iff_eq, bne_iff_ne] at read
    rcases read with ⟨rfl, plain⟩
    rw [code]
    exact unescape_of_ne plain rest
  · rename_i mark high low code
    simp only [Bool.and_eq_true, beq_iff_eq] at read
    rcases read with ⟨rfl, escape⟩
    rw [code, List.cons_append, List.cons_append, List.cons_append, List.nil_append, unescape, escape]
  · cases read

theorem unescape_flatMap_formCode (bytes : Bytes) : unescape (bytes.flatMap formCode) = bytes := by
  induction bytes with
  | nil => rfl
  | cons b rest ih => rw [List.flatMap_cons, unescape_formCode, ih]

theorem ofForm_formText (text : String) : ofForm (formText text) = text := by
  have code : Bytes.ofText (String.ofList ((formText text).map fun c => if c = '+' then ' ' else c)) =
      (Bytes.ofText text).flatMap formCode := by
    rw [Bytes.ofText_eq_flatMap (String.ofList _), String.toList_ofList, formText, List.map_flatMap,
      List.flatMap_assoc]
    rfl
  rw [ofForm, code, unescape_flatMap_formCode, Bytes.textLossy_ofText]

theorem not_mem_formText (text : String) : '&' ∉ formText text ∧ '=' ∉ formText text := by
  have all : ∀ n < 256, '&' ∉ formByte (UInt8.ofNat n) ∧ '=' ∉ formByte (UInt8.ofNat n) := by decide +kernel
  have none_ (b : UInt8) : '&' ∉ formByte b ∧ '=' ∉ formByte b := by
    rw [← UInt8.ofNat_toNat (x := b)]
    exact all b.toNat b.toNat_lt
  constructor
  · intro member
    rcases List.mem_flatMap.mp member with ⟨b, _, given⟩
    exact (none_ b).1 given
  · intro member
    rcases List.mem_flatMap.mp member with ⟨b, _, given⟩
    exact (none_ b).2 given

theorem forall_bne {c : Char} {cs : List Char} (absent : c ∉ cs) : ∀ d ∈ cs, (d != c) = true := by
  intro d member
  rw [bne_iff_ne]
  rintro rfl
  exact absent member

theorem splitChar_append {c : Char} {front : List Char} (absent : c ∉ front) (rest : List Char) :
    splitChar c (front ++ c :: rest) = (front, rest) := by
  have other := forall_bne absent
  rw [splitChar, List.takeWhile_append_of_pos other, List.dropWhile_append_of_pos other]
  simp

def piece (pair : String × String) : List Char := formText pair.1 ++ '=' :: formText pair.2

theorem splitOnP_piece (pair : String × String) : (piece pair).splitOnP (· == '&') = [piece pair] := by
  apply List.splitOnP_eq_singleton
  intro c member
  simp only [beq_eq_false_iff_ne]
  rintro rfl
  rcases List.mem_append.mp member with member | member
  · exact (not_mem_formText _).1 member
  rcases List.mem_cons.mp member with same | member
  · cases same
  · exact (not_mem_formText _).1 member

theorem splitOnP_formPairs (some_ : pairs ≠ []) :
    (formPairs pairs).splitOnP (· == '&') = pairs.map piece := by
  induction pairs with
  | nil => exact absurd rfl some_
  | cons pair rest ih =>
      cases rest with
      | nil => exact splitOnP_piece pair
      | cons next rest =>
          change ((piece pair) ++ '&' :: formPairs (next :: rest)).splitOnP (· == '&') = _
          rw [List.splitOnP_append_cons _ _ (by rfl), splitOnP_piece, ih (List.cons_ne_nil _ _)]
          rfl

theorem formPairsOf_formPairs (pairs : List (String × String)) : formPairsOf (formPairs pairs) = pairs := by
  cases pairs with
  | nil => rfl
  | cons first rest =>
      have kept : ((first :: rest).map piece).filter (· ≠ []) = (first :: rest).map piece := by
        rw [List.filter_eq_self]
        intro cs member
        rcases List.mem_map.mp member with ⟨pair, _, rfl⟩
        simp [piece]
      have back (pair : String × String) :
          (ofForm (splitChar '=' (piece pair)).1, ofForm (splitChar '=' (piece pair)).2) = pair := by
        rw [piece, splitChar_append (not_mem_formText _).2, ofForm_formText, ofForm_formText]
      rw [formPairsOf, splitOnP_formPairs (List.cons_ne_nil _ _), kept, List.map_map]
      calc (first :: rest).map _ = (first :: rest).map id := List.map_congr_left fun pair _ => back pair
        _ = first :: rest := List.map_id _

end PlaceGateway.Url
