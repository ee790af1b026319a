import Mathlib.Algebra.Order.Field.Power
import Mathlib.Data.Rat.Cast.Order
import Mathlib.Tactic.FieldSimp
import Household.Decimal.Binary

/-! # Numbers that are whole

The exact value of a finite binary64 number is a whole multiple of a power of two. It is read as a
whole number if it is one.
-/

set_option autoImplicit false

namespace Household.Decimal

def Exact.value? : Exact → Option ℚ
  | .finite negative m q => some ((if negative then -1 else 1) * m * 2 ^ q)
  | _ => none

theorem two_zpow_eq (q : Int) : (2 : ℚ) ^ q = 2 ^ q.toNat / 2 ^ (-q).toNat := by
  rcases le_total 0 q with h | h
  · rw [Int.toNat_eq_zero.mpr (Int.neg_nonpos_of_nonneg h), pow_zero, div_one, ← zpow_natCast,
      Int.toNat_of_nonneg h]
  · rw [Int.toNat_eq_zero.mpr h, pow_zero, one_div, ← zpow_natCast,
      Int.toNat_of_nonneg (Int.neg_nonneg_of_nonpos h), zpow_neg, inv_inv]

-- Only one of the two powers is not one, so that the product divides if the significand does.
theorem dvd_mul_pow_iff {m : Nat} {q : Int} :
    2 ^ (-q).toNat ∣ m * 2 ^ q.toNat ↔ m % 2 ^ (-q).toNat = 0 := by
  rw [← Nat.dvd_iff_mod_eq_zero]
  rcases le_total 0 q with h | h
  · rw [Int.toNat_eq_zero.mpr (Int.neg_nonpos_of_nonneg h), pow_zero]
    exact iff_of_true (one_dvd _) (one_dvd _)
  · rw [Int.toNat_eq_zero.mpr h, pow_zero, Nat.mul_one]

theorem mul_two_zpow_eq_iff {m : Nat} {q n : Int} :
    (m : ℚ) * 2 ^ q = n ↔
      m % 2 ^ (-q).toNat = 0 ∧ ((m * 2 ^ q.toNat / 2 ^ (-q).toNat : Nat) : Int) = n := by
  have hUnit : (2 ^ (-q).toNat : Int) ≠ 0 := pow_ne_zero _ two_ne_zero
  have hWhole : (m : ℚ) * 2 ^ q = n ↔ (m * 2 ^ q.toNat : Int) = n * 2 ^ (-q).toNat := by
    rw [two_zpow_eq, ← mul_div_assoc, div_eq_iff (pow_ne_zero _ two_ne_zero)]
    norm_cast
  rw [hWhole, ← dvd_mul_pow_iff]
  push_cast
  constructor
  · intro h
    refine ⟨?_, by rw [h, Int.mul_ediv_cancel _ hUnit]⟩
    have hDvd : (2 ^ (-q).toNat : Int) ∣ m * 2 ^ q.toNat := Dvd.intro_left n h.symm
    exact_mod_cast hDvd
  · rintro ⟨hDvd, rfl⟩
    have hDvd : (2 ^ (-q).toNat : Int) ∣ m * 2 ^ q.toNat := by exact_mod_cast hDvd
    exact (Int.ediv_mul_cancel hDvd).symm

theorem whole?_eq_some_iff {x : Float} {n : Int} :
    whole? x = some n ↔ (Exact.ofFloat x).value? = some (n : ℚ) := by
  rw [whole?]
  cases Exact.ofFloat x with
  | nan => simp [Exact.value?]
  | infinite negative => simp [Exact.value?]
  | finite negative m q =>
    dsimp only [Exact.value?, Nat.pow_eq]
    rw [Option.ite_none_right_eq_some, Option.some.injEq, Option.some.injEq]
    cases negative with
    | false => rw [if_neg Bool.false_ne_true, if_neg Bool.false_ne_true, one_mul, mul_two_zpow_eq_iff]
    | true =>
      rw [if_pos rfl, if_pos rfl, neg_one_mul, neg_mul, neg_eq_iff_eq_neg, neg_eq_iff_eq_neg,
        ← Int.cast_neg, mul_two_zpow_eq_iff]

end Household.Decimal
