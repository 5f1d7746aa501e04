import PlaceGateway.Binary64
/-! The two zeros, and the parts of a number. -/

namespace PlaceGateway.Binary64

def negativeZero : Binary64 := ⟨0x8000000000000000⟩

def negativeZeros (x : Binary64) : Nat := if x = negativeZero then 1 else 0

variable {x : Binary64}

theorem magnitude_eq_mod (x : Binary64) : x.magnitude = x.bits.toNat % 2 ^ 63 := by
  rw [magnitude, UInt64.toNat_and]
  exact Nat.and_two_pow_sub_one_eq_mod x.bits.toNat 63

theorem isZero_iff : x.isZero = true ↔ x = zero ∨ x = negativeZero := by
  constructor
  · intro isZero
    have low : x.bits.toNat % 2 ^ 63 = 0 := by
      rw [← magnitude_eq_mod]
      simpa [Binary64.isZero] using isZero
    have bound := x.bits.toNat_lt
    have ends : x.bits.toNat = 0 ∨ x.bits.toNat = 2 ^ 63 := by omega
    obtain ⟨bits⟩ := x
    rcases ends with none | high
    · exact .inl (congrArg mk (UInt64.toNat_inj.mp none))
    · exact .inr (congrArg mk (UInt64.toNat_inj.mp high))
  · rintro (rfl | rfl) <;> rfl

theorem unsignZero_of_ne (other : x ≠ negativeZero) : x.unsignZero = x := by
  rw [unsignZero]
  split
  · rename_i isZero
    rcases isZero_iff.mp isZero with rfl | same
    · rfl
    · exact absurd same other
  · rfl

theorem unsignZero_of_negativeZeros (none : x.negativeZeros = 0) : x.unsignZero = x := by
  refine unsignZero_of_ne ?_
  rintro rfl
  cases none

theorem eq_of_sign_of_magnitude {y : Binary64} (sign : x.isNegative = y.isNegative)
    (magnitude : x.magnitude = y.magnitude) : x = y := by
  have negative (z : Binary64) : z.isNegative = true ↔ z.bits.toNat / 2 ^ 63 = 1 := by
    rw [isNegative, beq_iff_eq, ← UInt64.toNat_inj, UInt64.toNat_shiftRight, Nat.shiftRight_eq_div_pow]
    rfl
  have top : x.bits.toNat / 2 ^ 63 = 1 ↔ y.bits.toNat / 2 ^ 63 = 1 := by
    rw [← negative, ← negative, sign]
  rw [magnitude_eq_mod, magnitude_eq_mod] at magnitude
  have bound := x.bits.toNat_lt
  have bound' := y.bits.toNat_lt
  have same : x.bits.toNat = y.bits.toNat := by omega
  rcases x with ⟨bits⟩
  rcases y with ⟨bits'⟩
  exact congrArg mk (UInt64.toNat_inj.mp same)

end PlaceGateway.Binary64
