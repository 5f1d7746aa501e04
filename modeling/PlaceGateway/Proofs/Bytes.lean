import Mathlib.Data.List.Basic
import Mathlib.Data.List.TakeWhile
import PlaceGateway.Bytes
/-! Texts and their bytes: both have the same order, and the bytes of a text are read back as the text. -/

namespace PlaceGateway.Bytes

variable {s t more : Bytes} {lead second : UInt8}

theorem ofText_eq_flatMap (text : String) : ofText text = text.toList.flatMap String.utf8EncodeChar := by
  have encoded : text.toByteArray = (text.toList.flatMap String.utf8EncodeChar).toByteArray :=
    String.utf8Encode_toList.symm
  rw [ofText, encoded, List.data_toByteArray]

theorem ofNat_cons_lt {x y : Nat} (small : y < 256) (before : x ≤ y) (rest : x = y → s < t) :
    UInt8.ofNat x :: s < UInt8.ofNat y :: t := by
  rw [List.cons_lt_cons_iff]
  rcases Nat.lt_or_eq_of_le before with less | same
  · left
    rw [UInt8.lt_iff_toNat_lt, UInt8.toNat_ofNat', UInt8.toNat_ofNat']
    omega
  · exact .inr ⟨congrArg UInt8.ofNat same, rest same⟩

/-- A character is told from a later one before either of them ends, whatever follows: by the first byte if
they have different numbers of bytes, else by the first six bits in which they differ. -/
theorem encode_lt_encode {c d : Char} (less : c < d) (s t : Bytes) :
    String.utf8EncodeChar c ++ s < String.utf8EncodeChar d ++ t := by
  have less : c.val.toNat < d.val.toNat := less
  have bound : d.val.toNat < 0x110000 := by
    rcases d.valid with low | high <;> omega
  rw [String.utf8EncodeChar, String.utf8EncodeChar]
  generalize c.val.toNat = v at *
  generalize d.val.toNat = w at *
  -- The greater character has one to four bytes, and the lesser one at most as many.
  by_cases one : w ≤ 0x7f
  · rw [if_pos (by omega), if_pos one]
    exact ofNat_cons_lt (by omega) (by omega) (by omega)
  by_cases two : w ≤ 0x7ff
  · rw [if_neg one, if_pos two]
    split
    · exact ofNat_cons_lt (by omega) (by omega) (by omega)
    · rw [if_pos (by omega)]
      exact ofNat_cons_lt (by omega) (by omega) fun _ => ofNat_cons_lt (by omega) (by omega) (by omega)
  by_cases three : w ≤ 0xffff
  · rw [if_neg one, if_neg two, if_pos three]
    split
    · exact ofNat_cons_lt (by omega) (by omega) (by omega)
    split
    · exact ofNat_cons_lt (by omega) (by omega) (by omega)
    · rw [if_pos (by omega)]
      exact ofNat_cons_lt (by omega) (by omega) fun _ => ofNat_cons_lt (by omega) (by omega) fun _ =>
        ofNat_cons_lt (by omega) (by omega) (by omega)
  · rw [if_neg one, if_neg two, if_neg three]
    split
    · exact ofNat_cons_lt (by omega) (by omega) (by omega)
    split
    · exact ofNat_cons_lt (by omega) (by omega) (by omega)
    split
    · exact ofNat_cons_lt (by omega) (by omega) (by omega)
    · exact ofNat_cons_lt (by omega) (by omega) fun _ => ofNat_cons_lt (by omega) (by omega) fun _ =>
        ofNat_cons_lt (by omega) (by omega) fun _ => ofNat_cons_lt (by omega) (by omega) (by omega)

theorem flatMap_encode_lt {chars chars' : List Char} (less : chars < chars') :
    chars.flatMap String.utf8EncodeChar < chars'.flatMap String.utf8EncodeChar := by
  induction chars generalizing chars' with
  | nil =>
      cases chars' with
      | nil => exact absurd less (List.lt_irrefl _)
      | cons d rest =>
          rw [List.flatMap_nil, List.flatMap_cons]
          obtain ⟨byte, bytes, some_⟩ := List.exists_cons_of_length_pos
            (l := String.utf8EncodeChar d) (by rw [String.length_utf8EncodeChar]; exact d.utf8Size_pos)
          rw [some_]
          exact List.nil_lt_cons _ _
  | cons c rest ih =>
      cases chars' with
      | nil => exact absurd less (List.not_lt_nil _)
      | cons d rest' =>
          rw [List.flatMap_cons, List.flatMap_cons]
          rcases List.cons_lt_cons_iff.mp less with first | ⟨rfl, later⟩
          · exact encode_lt_encode first _ _
          · exact List.append_left_lt (ih later)

theorem ofText_lt_ofText_iff {a b : String} : ofText a < ofText b ↔ a < b := by
  have mono {a b : String} (less : a < b) : ofText a < ofText b := by
    rw [ofText_eq_flatMap, ofText_eq_flatMap]
    exact flatMap_encode_lt less
  refine ⟨fun less => ?_, mono⟩
  by_contra other
  by_cases back : b < a
  · exact List.lt_asymm less (mono back)
  · have same : a = b := String.le_antisymm (String.not_lt.mp back) (String.not_lt.mp other)
    rw [same] at less
    exact List.lt_irrefl _ less

theorem splitLossy_sequence {least greatest : UInt8}
    (shape : sequenceShape lead = some (more.length + 2, least, greatest)) (multi : ¬ lead < 0x80)
    (bounds : least ≤ second ∧ second ≤ greatest) (continued : ∀ b ∈ more, 0x80 ≤ b ∧ b ≤ 0xBF) (rest : Bytes) :
    splitLossy lead (second :: (more ++ rest)) = (lead :: second :: more, rest) := by
  have whole : (more.takeWhile fun b => 0x80 ≤ b && b ≤ 0xBF) = more := by
    rw [List.takeWhile_eq_self_iff]
    intro b member
    simpa using continued b member
  have counted : continuation (more.length + 2, least, greatest) (second :: (more ++ rest)) = more.length + 1 := by
    rw [continuation, if_pos bounds, Nat.add_sub_cancel, List.take_left, whole, Nat.add_comm]
  simp only [splitLossy, multi, if_false, shape, counted, if_true, List.take_succ_cons, List.take_left,
    List.drop_succ_cons, List.drop_left]

theorem sequenceShape_ofNat {n : Nat} (small : n < 256) : sequenceShape (UInt8.ofNat n) =
    if 0xC2 ≤ n ∧ n ≤ 0xDF then some (2, 0x80, 0xBF)
    else if n = 0xE0 then some (3, 0xA0, 0xBF)
    else if n = 0xED then some (3, 0x80, 0x9F)
    else if 0xE1 ≤ n ∧ n ≤ 0xEF then some (3, 0x80, 0xBF)
    else if n = 0xF0 then some (4, 0x90, 0xBF)
    else if 0xF1 ≤ n ∧ n ≤ 0xF3 then some (4, 0x80, 0xBF)
    else if n = 0xF4 then some (4, 0x80, 0x8F)
    else none := by
  revert n
  decide +kernel

theorem ofNat_within {low n high : Nat} (bounds : low ≤ n ∧ n ≤ high) (small : high < 256) :
    UInt8.ofNat low ≤ UInt8.ofNat n ∧ UInt8.ofNat n ≤ UInt8.ofNat high := by
  rw [UInt8.le_iff_toNat_le, UInt8.le_iff_toNat_le, UInt8.toNat_ofNat', UInt8.toNat_ofNat', UInt8.toNat_ofNat']
  omega

theorem not_ofNat_lt {n : Nat} (small : n < 256) (large : 0x80 ≤ n) : ¬ UInt8.ofNat n < 0x80 := by
  rw [UInt8.lt_iff_toNat_lt, UInt8.toNat_ofNat']
  change ¬ n % 2 ^ 8 < 128
  omega

theorem splitLossy_ofNat (low high : Nat) {n m : Nat} {more : List Nat} (small : n < 256) (large : 0x80 ≤ n)
    (shape : sequenceShape (UInt8.ofNat n) = some (more.length + 2, UInt8.ofNat low, UInt8.ofNat high))
    (bounds : low ≤ m ∧ m ≤ high) (within : high < 256) (continued : ∀ b ∈ more, 0x80 ≤ b ∧ b ≤ 0xBF)
    (rest : Bytes) :
    splitLossy (UInt8.ofNat n) (UInt8.ofNat m :: (more.map UInt8.ofNat ++ rest)) =
      (UInt8.ofNat n :: UInt8.ofNat m :: more.map UInt8.ofNat, rest) := by
  apply splitLossy_sequence
  · rw [List.length_map]
    exact shape
  · exact not_ofNat_lt small large
  · exact ofNat_within bounds within
  · intro b member
    rcases List.mem_map.mp member with ⟨c, given, rfl⟩
    exact ofNat_within (continued c given) (by decide)

/-- The lead byte of a character is bounded away from surrogates and from what lies beyond the last one. -/
theorem splitLossy_encode (c : Char) (rest : Bytes) : ∃ lead tail, String.utf8EncodeChar c = lead :: tail ∧
    splitLossy lead (tail ++ rest) = (lead :: tail, rest) := by
  have valid : c.val.toNat < 0xD800 ∨ 0xDFFF < c.val.toNat ∧ c.val.toNat < 0x110000 := c.valid
  rw [String.utf8EncodeChar]
  generalize c.val.toNat = v at *
  by_cases one : v ≤ 0x7f
  · refine ⟨_, _, if_pos one, ?_⟩
    have small : UInt8.ofNat v < 0x80 := by
      rw [UInt8.lt_iff_toNat_lt, UInt8.toNat_ofNat']
      change v % 2 ^ 8 < 128
      omega
    rw [splitLossy, if_pos small]
    rfl
  by_cases two : v ≤ 0x7ff
  · refine ⟨_, _, (if_neg one).trans (if_pos two), ?_⟩
    have continued : ∀ b ∈ ([] : List Nat), 0x80 ≤ b ∧ b ≤ 0xBF := nofun
    apply splitLossy_ofNat 0x80 0xBF (by omega) (by omega) ?_ (by omega) (by omega) continued
    rw [sequenceShape_ofNat (by omega), if_pos (by omega)]
    rfl
  by_cases three : v ≤ 0xffff
  · refine ⟨_, _, (if_neg one).trans ((if_neg two).trans (if_pos three)), ?_⟩
    have continued : ∀ b ∈ [v % 64 + 128], 0x80 ≤ b ∧ b ≤ 0xBF := by
      simp only [List.mem_singleton, forall_eq]
      omega
    -- Behind E0 nothing shorter may be written long, and behind ED no surrogate.
    rcases Nat.lt_or_ge v 0x1000 with first | later
    · apply splitLossy_ofNat 0xA0 0xBF (by omega) (by omega) ?_ (by omega) (by omega) continued
      rw [sequenceShape_ofNat (by omega), if_neg (by omega), if_pos (by omega)]
      rfl
    by_cases surrogates : v / 4096 = 13
    · apply splitLossy_ofNat 0x80 0x9F (by omega) (by omega) ?_ (by omega) (by omega) continued
      rw [sequenceShape_ofNat (by omega), if_neg (by omega), if_neg (by omega), if_pos (by omega)]
      rfl
    · apply splitLossy_ofNat 0x80 0xBF (by omega) (by omega) ?_ (by omega) (by omega) continued
      rw [sequenceShape_ofNat (by omega), if_neg (by omega), if_neg (by omega), if_neg (by omega),
        if_pos (by omega)]
      rfl
  · refine ⟨_, _, (if_neg one).trans ((if_neg two).trans (if_neg three)), ?_⟩
    have continued : ∀ b ∈ [v / 64 % 64 + 128, v % 64 + 128], 0x80 ≤ b ∧ b ≤ 0xBF := by
      simp only [List.mem_cons, List.not_mem_nil, or_false, forall_eq_or_imp, forall_eq]
      omega
    -- Behind F0 nothing shorter may be written long, and behind F4 nothing past the last character.
    rcases Nat.lt_or_ge v 0x40000 with first | later
    · apply splitLossy_ofNat 0x90 0xBF (by omega) (by omega) ?_ (by omega) (by omega) continued
      rw [sequenceShape_ofNat (by omega), if_neg (by omega), if_neg (by omega), if_neg (by omega),
        if_neg (by omega), if_pos (by omega)]
      rfl
    rcases Nat.lt_or_ge v 0x100000 with middle | last
    · apply splitLossy_ofNat 0x80 0xBF (by omega) (by omega) ?_ (by omega) (by omega) continued
      rw [sequenceShape_ofNat (by omega), if_neg (by omega), if_neg (by omega), if_neg (by omega),
        if_neg (by omega), if_neg (by omega), if_pos (by omega)]
      rfl
    · apply splitLossy_ofNat 0x80 0x8F (by omega) (by omega) ?_ (by omega) (by omega) continued
      rw [sequenceShape_ofNat (by omega), if_neg (by omega), if_neg (by omega), if_neg (by omega),
        if_neg (by omega), if_neg (by omega), if_neg (by omega), if_pos (by omega)]
      rfl

theorem repaired_ofText (text : String) : repaired (ofText text) = ofText text := by
  rw [ofText_eq_flatMap]
  induction text.toList with
  | nil => simp [repaired]
  | cons c rest ih =>
      rcases splitLossy_encode c (rest.flatMap String.utf8EncodeChar) with ⟨lead, tail, encoded, split⟩
      rw [List.flatMap_cons, encoded, List.cons_append, repaired, split, ih]
      rfl

theorem text?_ofText (text : String) : text? (ofText text) = some text := by
  have valid : text.toByteArray.IsValidUTF8 := text.isValidUTF8
  change String.fromUTF8? text.toByteArray = some text
  rw [String.fromUTF8?, dif_pos]
  · rfl

theorem textLossy_ofText (text : String) : textLossy (ofText text) = text := by
  rw [textLossy, repaired_ofText, text?_ofText]
  rfl

end PlaceGateway.Bytes
