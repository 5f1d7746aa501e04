import Mathlib.Data.List.Basic
/-! Numbers and their decimal digits. -/

namespace PlaceGateway.Digits

theorem toList_toString (n : Nat) : (toString n).toList = Nat.toDigits 10 n := by
  rw [Nat.toString_eq_ofList_toDigits, String.toList_ofList]

theorem toDigits_injective {m n : Nat} (same : Nat.toDigits 10 m = Nat.toDigits 10 n) : m = n := by
  have values := congrArg (Nat.ofDigitChars 10 · 0) same
  rwa [Nat.ofDigitChars_ten_toDigits, Nat.ofDigitChars_ten_toDigits] at values

theorem toString_injective {m n : Nat} (same : toString m = toString n) : m = n := by
  apply toDigits_injective
  rw [← toList_toString, ← toList_toString, same]

theorem toString_int_injective {i i' : Int} (same : toString i = toString i') : i = i' := by
  have unsigned (m n : Nat) : Nat.repr m ≠ "-" ++ Nat.repr n := by
    intro same
    have sign : '-' ∈ Nat.toDigits 10 m := by
      rw [← Nat.toList_repr, same, String.toList_append]
      exact List.mem_cons_self
    cases Nat.isDigit_of_mem_toDigits (by decide) (by decide) sign
  cases i with
  | ofNat m =>
      cases i' with
      | ofNat n => exact congrArg Int.ofNat (toString_injective same)
      | negSucc n => exact absurd same (unsigned m (n + 1))
  | negSucc m =>
      cases i' with
      | ofNat n => exact absurd same.symm (unsigned n (m + 1))
      | negSucc n =>
          have next : m + 1 = n + 1 := toString_injective ((String.append_right_inj "-").mp same)
          exact congrArg Int.negSucc (Nat.succ.inj next)

theorem eq_zero_of_head_toDigits {n : Nat} (zero : (Nat.toDigits 10 n).head? = some '0') : n = 0 := by
  induction n using Nat.strongRecOn with
  | _ n ih =>
    by_cases small : n < 10
    · rw [Nat.toDigits_of_lt_base small] at zero
      exact Nat.digitChar_eq_zero.mp (Option.some.inj zero)
    · have large : 10 ≤ n := Nat.le_of_not_lt small
      rw [Nat.toDigits_of_base_le (by decide) large, List.head?_append_of_ne_nil _ Nat.toDigits_ne_nil] at zero
      have front := ih (n / 10) (by omega) zero
      omega

theorem toDigits_ne_zero_cons (n : Nat) (c : Char) (rest : List Char) :
    Nat.toDigits 10 n ≠ '0' :: c :: rest := by
  intro same
  have zero : n = 0 := eq_zero_of_head_toDigits (by rw [same]; rfl)
  rw [zero, Nat.toDigits_zero] at same
  cases same

theorem le_ofDigitChars (cs : List Char) (n : Nat) : n ≤ Nat.ofDigitChars 10 cs n := by
  rw [Nat.ofDigitChars_eq_ofDigitChars_zero]
  exact Nat.le_trans (Nat.le_mul_of_pos_left n (Nat.pow_pos (by decide))) (Nat.le_add_right _ _)

end PlaceGateway.Digits
