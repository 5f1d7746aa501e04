import Mathlib.Data.Nat.Log
import Mathlib.Tactic.IntervalCases
import PlaceGateway.Proofs.Bytes
import PlaceGateway.Protobuf.Wire
/-! What is written in the wire format is read back, whatever follows it. -/

namespace PlaceGateway

namespace Protobuf

theorem log2_shift (count n : Nat) (large : 2 ^ count ≤ n) :
    n.log2 = (n / 2 ^ count).log2 + count := by
  have nonzero : n ≠ 0 := by
    have := Nat.two_pow_pos count
    omega
  have enough : count ≤ Nat.log 2 n := (Nat.le_log_iff_pow_le Nat.one_lt_two nonzero).mpr large
  rw [Nat.log2_eq_log_two, Nat.log2_eq_log_two, Nat.log_div_base_pow]
  omega

theorem varint_length (n : Nat) : (varint n).length = varintSize n := by
  induction n using varint.induct with
  | case1 n small =>
      have single : n.log2 < 7 := by
        rcases Nat.eq_zero_or_pos n with rfl | positive
        · decide
        · exact (Nat.log2_lt (by omega)).mpr small
      rw [varint, if_pos small, varintSize, Nat.div_eq_of_lt single]
      rfl
  | case2 n large ih =>
      have high : n.log2 = (n / 128).log2 + 7 := log2_shift 7 n (by omega)
      rw [varint, if_neg large, List.length_cons, ih, varintSize, varintSize, high]
      omega

theorem byte_toNat (n : Nat) (small : n < 256) : (UInt8.ofNat n).toNat = n :=
  UInt8.toNat_ofNat_of_lt' small

theorem readVarintWithin_varint (left n : Nat) (fits : n < 2 * 128 ^ left) (rest : Bytes) :
    readVarintWithin (left + 1) (varint n ++ rest) = some (n, rest) := by
  induction left generalizing n with
  | zero =>
      have small : n < 2 := by simpa using fits
      interval_cases n <;> simp [varint, readVarintWithin]
  | succ left ih =>
      rw [varint]
      split
      · rename_i small
        have byte := byte_toNat n (by omega)
        simp [readVarintWithin, UInt8.lt_iff_toNat_lt, byte, small]
      · rename_i large
        have byte := byte_toNat (n % 128 + 128) (by omega)
        have high : n / 128 < 2 * 128 ^ left := by
          rw [pow_succ] at fits
          omega
        have continues : ¬ UInt8.ofNat (n % 128 + 128) < 0x80 := by
          rw [UInt8.lt_iff_toNat_lt, byte]
          simp
        rw [List.cons_append, readVarintWithin, if_neg continues, ih _ high, byte]
        simp only [Option.map_some, Option.some.injEq, Prod.mk.injEq, and_true]
        omega

theorem readVarint_varint (n : Nat) (fits : n < 2 ^ 64) (rest : Bytes) :
    readVarint (varint n ++ rest) = some (n, rest) :=
  readVarintWithin_varint 9 n (by omega) rest

theorem readBytes_append (front rest : Bytes) :
    readBytes front.length (front ++ rest) = some (front, rest) := by
  simp [readBytes]

theorem readDelimited_delimit (s rest : Bytes) (fits : s.length < 2 ^ 64) :
    readDelimited (delimit s ++ rest) = some (s, rest) := by
  rw [delimit, List.append_assoc, readDelimited, readVarint_varint _ fits]
  exact readBytes_append s rest

theorem readVarintWithin_more {left n : Nat} {s rest : Bytes} (read : readVarintWithin left s = some (n, rest))
    (more : Bytes) : readVarintWithin left (s ++ more) = some (n, rest ++ more) := by
  induction left generalizing s n with
  | zero => cases read
  | succ left ih =>
      cases s with
      | nil => cases read
      | cons b s =>
          rw [List.cons_append]
          rw [readVarintWithin] at read ⊢
          split at read
          · rename_i last
            rw [if_pos last]
            split at read
            · cases read
            · rename_i fits
              rw [if_neg fits]
              cases read
              rfl
          · rename_i continues
            obtain ⟨⟨high, after⟩, later, same⟩ := Option.map_eq_some_iff.mp read
            cases same
            rw [if_neg continues, ih later, Option.map_some]

theorem readBytes_more {count : Nat} {s front rest : Bytes} (read : readBytes count s = some (front, rest))
    (more : Bytes) : readBytes count (s ++ more) = some (front, rest ++ more) := by
  rw [readBytes] at read
  split at read
  · rename_i enough
    cases read
    have longer : count ≤ (s ++ more).length := by
      rw [List.length_append]
      omega
    rw [readBytes, if_pos longer, List.take_append_of_le_length enough,
      List.drop_append_of_le_length enough]
  · cases read

theorem readDelimited_more {s front rest : Bytes} (read : readDelimited s = some (front, rest))
    (more : Bytes) : readDelimited (s ++ more) = some (front, rest ++ more) := by
  rw [readDelimited] at read ⊢
  obtain ⟨⟨count, after⟩, length, body⟩ := Option.bind_eq_some_iff.mp read
  rw [readVarint, readVarintWithin_more length]
  exact readBytes_more body more

theorem readDelimited_of_truncated {s front missing : Bytes} (fits : s.length < 2 ^ 64)
    (part : front ++ missing = delimit s) (cut : missing ≠ []) : readDelimited front = none := by
  cases read : readDelimited front with
  | none => rfl
  | some found =>
      have whole := readDelimited_more read missing
      have exactly := readDelimited_delimit s [] fits
      rw [List.append_nil, ← part, whole] at exactly
      have left : found.2 ++ missing = [] := congrArg Prod.snd (Option.some.inj exactly)
      exact absurd (List.append_eq_nil_iff.mp left).2 cut

theorem wire_ofNumber?_number (wire : WireType) : WireType.ofNumber? wire.number = some wire := by
  cases wire <;> rfl

theorem wire_number_lt (wire : WireType) : wire.number < 8 := by
  cases wire <;> decide

theorem readKey_key (tag : Nat) (wire : WireType) (positive : 0 < tag) (small : tag < 2 ^ 29)
    (rest : Bytes) : readKey (key tag wire ++ rest) = some (tag, wire, rest) := by
  have low := wire_number_lt wire
  have number : (tag * 8 + wire.number) % 8 = wire.number := by omega
  have high : (tag * 8 + wire.number) / 8 = tag := by omega
  have bound : tag * 8 + wire.number < 2 ^ 32 ∧ 0 < tag := by omega
  rw [key, readKey, readVarint_varint _ (by omega)]
  simp only [bind, Option.bind, number, wire_ofNumber?_number, high]
  exact if_pos bound

theorem key_length (tag : Nat) (wire : WireType) (positive : 0 < tag) :
    (key tag wire).length = keySize tag := by
  have low := wire_number_lt wire
  have same : (tag * 8 + wire.number) / 2 ^ 3 = tag * 8 / 2 ^ 3 := by omega
  rw [key, varint_length, keySize, varintSize, varintSize, log2_shift 3 _ (by omega), same,
    ← log2_shift 3 _ (by omega)]

theorem key_ne_nil (tag : Nat) (wire : WireType) : key tag wire ≠ [] := by
  rw [key, varint]
  split <;> exact List.cons_ne_nil _ _

theorem littleEndian_length (count n : Nat) : (littleEndian count n).length = count := by
  induction count generalizing n with
  | zero => rfl
  | succ count ih => simp [littleEndian, ih]

theorem ofLittleEndian_littleEndian (count n : Nat) (fits : n < 256 ^ count) :
    ofLittleEndian (littleEndian count n) = n := by
  induction count generalizing n with
  | zero =>
      simp only [pow_zero] at fits
      simp [littleEndian, ofLittleEndian]
      omega
  | succ count ih =>
      have byte := byte_toNat (n % 256) (by omega)
      have high : n / 256 < 256 ^ count := by
        rw [pow_succ] at fits
        omega
      rw [littleEndian, ofLittleEndian, byte, ih _ high]
      omega

end Protobuf

end PlaceGateway
