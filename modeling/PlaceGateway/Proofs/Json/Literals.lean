import PlaceGateway.Json.Draft
import PlaceGateway.Proofs.Bytes
import PlaceGateway.Proofs.Json.Escapes
/-! Text literals as they are scanned: what is written of a text is scanned to the text. -/

namespace PlaceGateway

namespace Bytes

def ofChars (cs : List Char) : Bytes := cs.flatMap String.utf8EncodeChar

theorem ofText_ofList (cs : List Char) : ofText (String.ofList cs) = ofChars cs := by
  rw [ofText_eq_flatMap, String.toList_ofList, ofChars]

theorem ofChars_append (cs ds : List Char) : ofChars (cs ++ ds) = ofChars cs ++ ofChars ds := List.flatMap_append

theorem encode_ascii {c : Char} (small : c.toNat < 128) : String.utf8EncodeChar c = [UInt8.ofNat c.toNat] :=
  if_pos (Nat.le_of_lt_succ small)

theorem ofChars_cons_ascii {c : Char} (small : c.toNat < 128) (cs : List Char) :
    ofChars (c :: cs) = UInt8.ofNat c.toNat :: ofChars cs := by
  rw [ofChars, List.flatMap_cons, encode_ascii small]
  rfl

theorem encode_wide {c : Char} (large : 128 ≤ c.toNat) : ∀ b ∈ String.utf8EncodeChar c, 128 ≤ b.toNat := by
  have bound : c.val.toNat < 0x110000 := by
    rcases c.valid with low | high <;> omega
  have large : 128 ≤ c.val.toNat := large
  rw [String.utf8EncodeChar]
  generalize c.val.toNat = v at *
  rw [if_neg (by omega)]
  split
  · simp only [List.forall_mem_cons, UInt8.toNat_ofNat', List.not_mem_nil, false_implies, implies_true, and_true]
    omega
  split
  · simp only [List.forall_mem_cons, UInt8.toNat_ofNat', List.not_mem_nil, false_implies, implies_true, and_true]
    omega
  · simp only [List.forall_mem_cons, UInt8.toNat_ofNat', List.not_mem_nil, false_implies, implies_true, and_true]
    omega

end Bytes

namespace Json

open Draft (scanText)

variable {c : Char} {b e h₁ h₂ h₃ h₄ : UInt8} {u : Nat} {s t rest tail : Bytes}

theorem scanText_closed (tail : Bytes) : scanText (0x22 :: tail) = ([], .ok tail) := by
  rw [Draft.scanText.eq_def]
  exact if_pos rfl

theorem scanText_plain (unquoted : b ≠ 0x22) (printable : ¬ b < 0x20) (unescaped : b ≠ 0x5C) (tail : Bytes) :
    scanText (b :: tail) = (.byte b :: (scanText tail).1, (scanText tail).2) := by
  rw [Draft.scanText.eq_def]
  simp only [if_neg unquoted, if_neg printable, if_pos unescaped]

theorem scanText_escaped (short : e ≠ 0x75) (escaped : Draft.escaped? e = some b) (tail : Bytes) :
    scanText (0x5C :: e :: tail) = (.byte b :: (scanText tail).1, (scanText tail).2) := by
  rw [Draft.scanText.eq_def]
  simp only [if_neg (by decide : ¬ (0x5C : UInt8) = 0x22), if_neg (by decide : ¬ (0x5C : UInt8) < 0x20),
    ne_eq, not_true_eq_false, if_false, if_neg short, escaped]

theorem scanText_unit (unit : Draft.unit? h₁ h₂ h₃ h₄ = some u) (tail : Bytes) :
    scanText (0x5C :: 0x75 :: h₁ :: h₂ :: h₃ :: h₄ :: tail) = (.unit u :: (scanText tail).1, (scanText tail).2) := by
  rw [Draft.scanText.eq_def]
  simp only [if_neg (by decide : ¬ (0x5C : UInt8) = 0x22), if_neg (by decide : ¬ (0x5C : UInt8) < 0x20),
    ne_eq, not_true_eq_false, if_false, if_true, unit]

theorem scanText_plains {bytes : Bytes}
    (plain : ∀ b ∈ bytes, b ≠ 0x22 ∧ ¬ b < 0x20 ∧ b ≠ 0x5C) (tail : Bytes) :
    scanText (bytes ++ tail) = (bytes.map .byte ++ (scanText tail).1, (scanText tail).2) := by
  induction bytes with
  | nil => rfl
  | cons b bytes ih =>
      rcases List.forall_mem_cons.mp plain with ⟨⟨unquoted, printable, unescaped⟩, others⟩
      rw [List.cons_append, scanText_plain unquoted printable unescaped, ih others]
      rfl

theorem bytes?_bytes (bytes : Bytes) (more : List Piece) :
    Piece.bytes? (bytes.map .byte ++ more) = (Piece.bytes? more).map (bytes ++ ·) := by
  induction bytes with
  | nil => simp
  | cons b bytes ih =>
      rw [List.map_cons, List.cons_append, Piece.bytes?, ih, Option.map_map]
      rfl

def Pieces (c : Char) (pieces : List Piece) : Prop :=
  (∀ tail, scanText (Bytes.ofChars (escapeChar c) ++ tail) = (pieces ++ (scanText tail).1, (scanText tail).2)) ∧
    ∀ more, Piece.bytes? (pieces ++ more) = (Piece.bytes? more).map (String.utf8EncodeChar c ++ ·)

theorem pieces_plain (own : escapeChar c = [c])
    (plain : ∀ b ∈ String.utf8EncodeChar c, b ≠ 0x22 ∧ ¬ b < 0x20 ∧ b ≠ 0x5C) :
    Pieces c ((String.utf8EncodeChar c).map .byte) := by
  refine ⟨fun tail => ?_, bytes?_bytes _⟩
  rw [own, Bytes.ofChars, List.flatMap_singleton, scanText_plains plain]

theorem pieces_escaped {d : Char} (escape : escapeChar c = ['\\', d]) (small : c.toNat < 128) (small' : d.toNat < 128)
    (short : UInt8.ofNat d.toNat ≠ 0x75) (escaped : Draft.escaped? (UInt8.ofNat d.toNat) = some (UInt8.ofNat c.toNat)) :
    Pieces c [.byte (UInt8.ofNat c.toNat)] := by
  constructor
  · intro tail
    rw [escape, Bytes.ofChars_cons_ascii (by decide), Bytes.ofChars_cons_ascii small']
    exact scanText_escaped short escaped tail
  · intro more
    rw [Bytes.encode_ascii small]
    exact bytes?_bytes [UInt8.ofNat c.toNat] more

theorem pieces_control (control : c.toNat < 32)
    (escape : escapeChar c = ['\\', 'u', '0', '0', Bytes.hexDigit (c.toNat / 16), Bytes.hexDigit (c.toNat % 16)]) :
    Pieces c [.unit c.toNat] := by
  have digits : ∀ n < 32, (Bytes.hexDigit (n / 16)).toNat < 128 ∧ (Bytes.hexDigit (n % 16)).toNat < 128 ∧
      Draft.unit? 0x30 0x30 (UInt8.ofNat (Bytes.hexDigit (n / 16)).toNat)
        (UInt8.ofNat (Bytes.hexDigit (n % 16)).toNat) = some n := by decide
  rcases digits c.toNat control with ⟨high, low, unit⟩
  constructor
  · intro tail
    rw [escape, Bytes.ofChars_cons_ascii (by decide), Bytes.ofChars_cons_ascii (by decide),
      Bytes.ofChars_cons_ascii (by decide), Bytes.ofChars_cons_ascii (by decide), Bytes.ofChars_cons_ascii high,
      Bytes.ofChars_cons_ascii low]
    exact scanText_unit unit tail
  · intro more
    have lower : Piece.isLow c.toNat = false := by simp [Piece.isLow]; omega
    have upper : Piece.isHigh c.toNat = false := by simp [Piece.isHigh]; omega
    have text : Bytes.ofText c.toString = String.utf8EncodeChar c := by
      rw [Bytes.ofText_eq_flatMap]
      simp
    rw [List.singleton_append, Piece.bytes?.eq_def]
    simp only [lower, upper, Bool.false_eq_true, if_false, Char.ofNat_toNat, text]

theorem plain_of_printable (printable : 32 ≤ c.toNat) (quotes : c ≠ '"') (backslash : c ≠ '\\') :
    ∀ b ∈ String.utf8EncodeChar c, b ≠ 0x22 ∧ ¬ b < 0x20 ∧ b ≠ 0x5C := by
  intro b member
  have value : 32 ≤ b.toNat ∧ b.toNat ≠ 34 ∧ b.toNat ≠ 92 := by
    by_cases small : c.toNat < 128
    · have unquoted : c.toNat ≠ 34 := fun same => quotes (by rw [← Char.ofNat_toNat c, same])
      have unescaped : c.toNat ≠ 92 := fun same => backslash (by rw [← Char.ofNat_toNat c, same])
      rw [Bytes.encode_ascii small, List.mem_singleton] at member
      rw [member, UInt8.toNat_ofNat', Nat.mod_eq_of_lt (by omega)]
      omega
    · have wide := Bytes.encode_wide (Nat.le_of_not_lt small) b member
      omega
  refine ⟨?_, ?_, ?_⟩
  · rintro rfl
    exact absurd rfl value.2.1
  · rw [UInt8.lt_iff_toNat_lt]
    exact Nat.not_lt.mpr value.1
  · rintro rfl
    exact absurd rfl value.2.2

theorem exists_pieces (c : Char) : ∃ pieces, Pieces c pieces := by
  rcases escapeChar_cases c with ⟨d, member, escape⟩ | ⟨control, escape⟩ | ⟨printable, quotes, backslash, own⟩
  · have scans : ∀ m ∈ shortEscapes, m.1.toNat < 128 ∧ m.2.toNat < 128 ∧ UInt8.ofNat m.2.toNat ≠ 0x75 ∧
        Draft.escaped? (UInt8.ofNat m.2.toNat) = some (UInt8.ofNat m.1.toNat) := by decide
    rcases scans _ member with ⟨small, small', short, escaped⟩
    exact ⟨_, pieces_escaped escape small small' short escaped⟩
  · exact ⟨_, pieces_control control escape⟩
  · exact ⟨_, pieces_plain own (plain_of_printable printable quotes backslash)⟩

theorem scanText_chars (cs : List Char) (rest : Bytes) :
    ∃ pieces, scanText (Bytes.ofChars (cs.flatMap escapeChar) ++ 0x22 :: rest) = (pieces, .ok rest) ∧
      Piece.bytes? pieces = some (Bytes.ofChars cs) := by
  induction cs with
  | nil => exact ⟨[], scanText_closed rest, rfl⟩
  | cons c cs ih =>
      rcases ih with ⟨later, scanned, bytes⟩
      rcases exists_pieces c with ⟨pieces, scans, text⟩
      refine ⟨pieces ++ later, ?_, ?_⟩
      · rw [List.flatMap_cons, Bytes.ofChars_append, List.append_assoc, scans, scanned]
      · rw [text, bytes]
        rfl

theorem ofChars_quote (text : String) (rest : Bytes) : Bytes.ofChars (quote text) ++ rest =
    0x22 :: (Bytes.ofChars (text.toList.flatMap escapeChar) ++ 0x22 :: rest) := by
  rw [quote, List.cons_append, Bytes.ofChars_cons_ascii (by decide), Bytes.ofChars_append, List.cons_append,
    List.append_assoc]
  rfl

theorem scanText_quote (text : String) (rest : Bytes) :
    ∃ pieces, scanText (Bytes.ofChars (text.toList.flatMap escapeChar) ++ 0x22 :: rest) = (pieces, .ok rest) ∧
      Piece.text? pieces = some text := by
  rcases scanText_chars text.toList rest with ⟨pieces, scanned, bytes⟩
  refine ⟨pieces, scanned, ?_⟩
  rw [Piece.text?, bytes, Option.bind_some, ← Bytes.ofText_ofList, String.ofList_toList, Bytes.text?_ofText]

end Json

end PlaceGateway
