import Mathlib.Algebra.Order.Field.Power
import Mathlib.Tactic.Positivity
import Mathlib.Tactic.Ring
import PlaceGateway.Decimal
import PlaceGateway.Proofs.Binary64
/-! Decimals between which and a magnitude no other magnitude is nearer. Two magnitudes share no such decimal, so
that each decimal that is found for a double tells which one it was found for. -/

namespace PlaceGateway.Decimal

variable {x x' : Binary64} {d d' : Decimal} {m m' : Nat} {tie : Tie}

def value (d : Decimal) : ℚ := d.digits * 10 ^ d.exponent

theorem scaled_sides (a : Nat) (i : Int) (n : Nat) (j : Int) : ∃ c : ℚ, 0 < c ∧
    ((a * 10 ^ i.toNat * 2 ^ (-j).toNat : Nat) : ℚ) = a * 10 ^ i * c ∧
    ((n * 2 ^ j.toNat * 10 ^ (-i).toNat : Nat) : ℚ) = n * 2 ^ j * c := by
  have power (b : ℚ) (nonzero : b ≠ 0) (k : Int) : b ^ k.toNat = b ^ k * b ^ (-k).toNat := by
    rw [← zpow_natCast, ← zpow_natCast, ← zpow_add₀ nonzero]
    congr 1
    omega
  refine ⟨10 ^ (-i).toNat * 2 ^ (-j).toNat, by positivity, ?_, ?_⟩
  · push_cast
    rw [power 10 (by norm_num) i]
    ring
  · push_cast
    rw [power 2 (by norm_num) j]
    ring

theorem compareScaled_lt_iff {a : Nat} {i : Int} {n : Nat} {j : Int} :
    compareScaled a i n j = .lt ↔ (a : ℚ) * 10 ^ i < n * 2 ^ j := by
  rcases scaled_sides a i n j with ⟨c, positive, left, right⟩
  rw [compareScaled, Nat.compare_eq_lt, ← @Nat.cast_lt ℚ, left, right, mul_lt_mul_iff_left₀ positive]

theorem compareScaled_gt_iff {a : Nat} {i : Int} {n : Nat} {j : Int} :
    compareScaled a i n j = .gt ↔ (n : ℚ) * 2 ^ j < a * 10 ^ i := by
  rcases scaled_sides a i n j with ⟨c, positive, left, right⟩
  rw [compareScaled, Nat.compare_eq_gt, ← @Nat.cast_lt ℚ, left, right, mul_lt_mul_iff_left₀ positive]

/-- The quarter of the least positive magnitude, of which all bounds are multiples. -/
def quarter : ℚ := 2 ^ (-1076 : Int)

def significandOf (m : Nat) : Nat := if m / 2 ^ 52 = 0 then m else 2 ^ 52 + m % 2 ^ 52

def doublings (m : Nat) : Nat := m / 2 ^ 52 - 1

def middle (m : Nat) : Nat := 4 * significandOf m * 2 ^ doublings m

def lower (m : Nat) : Nat :=
  (4 * significandOf m - if m % 2 ^ 52 = 0 ∧ 1 < m / 2 ^ 52 then 1 else 2) * 2 ^ doublings m

def upper (m : Nat) : Nat := (4 * significandOf m + 2) * 2 ^ doublings m

theorem significandOf_mod_two (m : Nat) : significandOf m % 2 = m % 2 := by
  rw [significandOf]
  split <;> omega

theorem lower_lt_upper (m : Nat) : lower m < upper m := by
  apply Nat.mul_lt_mul_of_pos_right
  · split <;> omega
  · exact Nat.two_pow_pos _

theorem significandOf_pos (positive : 0 < m) : 0 < significandOf m := by
  rw [significandOf]
  split <;> omega

theorem lower_pos (positive : 0 < m) : 0 < lower m := by
  have some_ := significandOf_pos positive
  apply Nat.mul_pos
  · split <;> omega
  · exact Nat.two_pow_pos _

theorem lower_lt_middle (positive : 0 < m) : lower m < middle m := by
  have some_ := significandOf_pos positive
  apply Nat.mul_lt_mul_of_pos_right
  · split <;> omega
  · exact Nat.two_pow_pos _

theorem middle_lt_upper (m : Nat) : middle m < upper m := by
  apply Nat.mul_lt_mul_of_pos_right
  · omega
  · exact Nat.two_pow_pos _

/-- What is half way above one magnitude is half way below the next one. The gaps double from one to the other
only after a significand of ones. -/
theorem lower_succ (m : Nat) : lower (m + 1) = upper m := by
  -- A significand of ones is followed by a round one and a gap twice as wide, except where subnormals end.
  by_cases full : (m + 1) % 2 ^ 52 = 0
  · by_cases first : m / 2 ^ 52 = 0
    · have ones : m = 2 ^ 52 - 1 := by omega
      rw [ones]
      rfl
    · have ones : significandOf m = 2 ^ 53 - 1 := by
        rw [significandOf, if_neg first]
        omega
      have round : significandOf (m + 1) = 2 ^ 52 := by
        rw [significandOf, if_neg (by omega)]
        omega
      have doubled : doublings (m + 1) = doublings m + 1 := by
        rw [doublings, doublings]
        omega
      rw [lower, upper, if_pos (by omega), round, ones, doubled, Nat.pow_succ]
      omega
  · have next : significandOf (m + 1) = significandOf m + 1 := by
      rw [significandOf, significandOf]
      split <;> split <;> omega
    have same : doublings (m + 1) = doublings m := by
      rw [doublings, doublings]
      omega
    rw [lower, upper, if_neg (fun narrow => full narrow.1), next, same]
    congr 1

theorem upper_le_lower (less : m < m') : upper m ≤ lower m' := by
  induction m', less using Nat.le_induction with
  | base => exact Nat.le_of_eq (lower_succ m).symm
  | succ m' _ ih =>
      rw [lower_succ]
      exact Nat.le_trans ih (Nat.le_of_lt (lower_lt_upper m'))

theorem upper_lt_lower (less : m + 1 < m') : upper m < lower m' := by
  calc upper m = lower (m + 1) := (lower_succ m).symm
    _ < upper (m + 1) := lower_lt_upper (m + 1)
    _ ≤ lower m' := upper_le_lower less

/-- The number rounds to the magnitude: ends belong to even magnitudes. -/
structure RoundsTo (v : ℚ) (m : Nat) : Prop where
  low : lower m * quarter ≤ v
  high : v ≤ upper m * quarter
  odd : m % 2 = 1 → lower m * quarter < v ∧ v < upper m * quarter

theorem quarter_pos : 0 < quarter := by
  rw [quarter]
  positivity

theorem RoundsTo.not_lt {v : ℚ} (rounds : RoundsTo v m) (rounds' : RoundsTo v m') : ¬ m < m' := by
  intro less
  have bounds : (lower m' : ℚ) * quarter ≤ upper m * quarter := le_trans rounds'.low rounds.high
  have bound : lower m' ≤ upper m := by
    rw [mul_le_mul_iff_left₀ quarter_pos] at bounds
    exact_mod_cast bounds
  by_cases next : m' = m + 1
  · -- Neighbours share an end, which belongs to the even one of them.
    subst next
    rw [lower_succ] at bounds
    have low := rounds'.low
    have high := rounds.high
    rw [lower_succ] at low
    rcases Nat.mod_two_eq_zero_or_one m with even | odd
    · have strict := (rounds'.odd (by omega)).1
      rw [lower_succ] at strict
      exact absurd high (not_le.mpr strict)
    · exact absurd low (not_le.mpr (rounds.odd odd).2)
  · have apart := upper_lt_lower (show m + 1 < m' by omega)
    omega

theorem RoundsTo.unique {v : ℚ} (rounds : RoundsTo v m) (rounds' : RoundsTo v m') : m = m' := by
  have below := rounds.not_lt rounds'
  have above := rounds'.not_lt rounds
  omega

theorem RoundsTo.pos {v : ℚ} (rounds : RoundsTo v m) (positive : 0 < m) : 0 < v := by
  have bound : (0 : ℚ) < lower m := by exact_mod_cast lower_pos positive
  exact lt_of_lt_of_le (mul_pos bound quarter_pos) rounds.low

theorem quarters (x : Binary64) (n : Nat) :
    (n : ℚ) * 2 ^ (x.exponent - 2) = (n * 2 ^ doublings x.magnitude : Nat) * quarter := by
  have exponent : x.exponent - 2 = (doublings x.magnitude : Int) + (-1076) := by
    rw [Binary64.exponent, doublings]
    split <;> omega
  rw [exponent, zpow_add₀ two_ne_zero, zpow_natCast, quarter, Nat.cast_mul, Nat.cast_pow, Nat.cast_ofNat,
    mul_assoc]

theorem readsBack_iff : ReadsBack x d = true ↔ RoundsTo d.value x.magnitude := by
  have low := quarters x
    (4 * x.significand - if x.magnitude % 2 ^ 52 = 0 ∧ 1 < x.magnitude / 2 ^ 52 then 1 else 2)
  have high := quarters x (4 * x.significand + 2)
  have parity : x.significand % 2 = x.magnitude % 2 := significandOf_mod_two x.magnitude
  simp only [ReadsBack, parity]
  change _ = (lower x.magnitude : ℚ) * quarter at low
  change _ = (upper x.magnitude : ℚ) * quarter at high
  split
  · rename_i even
    simp only [Bool.and_eq_true, bne_iff_ne, ne_eq, compareScaled_lt_iff, compareScaled_gt_iff, low, high, not_lt]
    constructor
    · intro both
      exact ⟨both.1, both.2, fun odd => absurd odd (by omega)⟩
    · intro rounds
      exact ⟨rounds.low, rounds.high⟩
  · rename_i odd
    simp only [Bool.and_eq_true, beq_iff_eq, compareScaled_lt_iff, compareScaled_gt_iff, low, high]
    constructor
    · intro both
      exact ⟨le_of_lt both.1, le_of_lt both.2, fun _ => both⟩
    · intro rounds
      exact rounds.odd (by omega)

theorem onGrid_readsBack {exponent : Int} (found : onGrid tie x exponent = some d) :
    ReadsBack x d = true := by
  simp only [onGrid] at found
  split at found
  · cases found
  · rename_i below above
    cases found
    exact below
  · rename_i below above
    cases found
    exact above
  · rename_i below above
    split at found
    · cases found
      exact below
    · cases found
      exact above
    · cases found
      exact above
    · cases found
      split
      · exact below
      · exact above

theorem exact_value (x : Binary64) : (exact x).value = x.significand * 2 ^ x.exponent := by
  have power (k : Int) : (2 : ℚ) ^ k.toNat * 5 ^ (-k).toNat = 2 ^ k * 10 ^ (-k).toNat := by
    have ten : (10 : ℚ) = 2 * 5 := by norm_num
    rw [ten, mul_pow, ← mul_assoc, ← zpow_natCast 2 (-k).toNat, ← zpow_add₀ two_ne_zero]
    congr 1
    rw [← zpow_natCast]
    congr 1
    omega
  have nonzero : (10 : ℚ) ^ (-x.exponent).toNat ≠ 0 := by positivity
  rw [value, exact, zpow_neg, zpow_natCast]
  push_cast
  rw [mul_assoc (x.significand : ℚ), power, mul_assoc, mul_assoc, mul_inv_cancel₀ nonzero, mul_one]

theorem exact_middle (x : Binary64) : (exact x).value = middle x.magnitude * quarter := by
  have four : x.exponent = 2 + (x.exponent - 2) := by omega
  rw [middle, ← quarters, exact_value, four, zpow_add₀ two_ne_zero]
  change (significandOf x.magnitude : ℚ) * _ = _
  push_cast
  rw [← four]
  ring

theorem exact_readsBack (positive : 0 < x.magnitude) : ReadsBack x (exact x) = true := by
  have low : (lower x.magnitude : ℚ) * quarter < (exact x).value := by
    rw [exact_middle, mul_lt_mul_iff_left₀ quarter_pos]
    exact_mod_cast lower_lt_middle positive
  have high : (exact x).value < upper x.magnitude * quarter := by
    rw [exact_middle, mul_lt_mul_iff_left₀ quarter_pos]
    exact_mod_cast middle_lt_upper x.magnitude
  exact readsBack_iff.mpr ⟨le_of_lt low, le_of_lt high, fun _ => ⟨low, high⟩⟩

theorem strip_value (fuel : Nat) (d : Decimal) : (strip fuel d).value = d.value := by
  induction fuel generalizing d with
  | zero => rfl
  | succ fuel ih =>
      rw [strip]
      split
      · rename_i zero
        have digits : d.digits = d.digits / 10 * 10 := by omega
        rw [ih, value, value, zpow_add₀ (by norm_num), zpow_one]
        conv_rhs => rw [digits]
        push_cast
        ring
      · rfl

theorem shortest_roundsTo (tie : Tie) (positive : 0 < x.magnitude) :
    RoundsTo (shortest tie x).value x.magnitude := by
  rw [shortest, strip_value, ← readsBack_iff]
  cases found : (List.range 17).findSome? fun (n : Nat) => onGrid tie x (scale x - ((n : Int) + 1)) with
  | none => exact exact_readsBack positive
  | some d =>
      rcases List.exists_of_findSome?_eq_some found with ⟨n, _, found⟩
      exact onGrid_readsBack found

end PlaceGateway.Decimal
