import Mathlib
import Household.Decimal.Binary

/-! # Whole numbers that have a nearest number

The bits of a binary64 number that is not a NaN are kept, and a whole number below `2 ^ 1023` is
never rounded up to infinity.
-/

set_option autoImplicit false

namespace Household.Decimal

open Float.Model Float.Model.UnpackedFloat

theorem toBits_ofBits {b : UInt64} (h : b.toNat / two52 % 2048 ≠ 2047) :
    (Float.ofBits b).toBits = b := by
  have hExponent : (@unpackExponent Format.binary64 b.toBitVec).toNat =
      b.toNat / two52 % 2048 := by
    rw [unpackExponent_def, BitVec.extractLsb'_toNat, Nat.shiftRight_eq_div_pow]
    rfl
  have hNumber : @isNaNBits Format.binary64 b.toBitVec = false := by
    rw [isNaNBits, decide_eq_false_iff_not]
    rintro ⟨hOnes, -⟩
    rw [hOnes] at hExponent
    exact h (hExponent.symm.trans rfl)
  have hPack := @pack_unpack Format.binary64 b.toBitVec (by decide)
  rw [hNumber] at hPack
  exact UInt64.toBitVec_inj.mp hPack

/-- The exponent of a number tells whether it is finite, whatever its sign. -/
theorem isFinite_withSign {bits : Nat} (h : bits < infinityBits) (negative : Bool) :
    isFinite (withSign negative bits) = true := by
  have hWord : ∃ n, withSign negative bits = Float.ofBits (UInt64.ofNat n) ∧ n < 2 ^ 64 ∧
      n / two52 % 2048 ≠ 2047 := by
    rw [infinityBits] at h
    cases negative with
    | false => exact ⟨bits, rfl, by omega, by rw [two52]; omega⟩
    | true => exact ⟨two63 + bits, rfl, by rw [two63]; omega, by rw [two63, two52]; omega⟩
  obtain ⟨n, hSign, hSize, hExponent⟩ := hWord
  have hNat : (UInt64.ofNat n).toNat = n := UInt64.toNat_ofNat_of_lt' hSize
  rw [← hNat] at hExponent
  rw [isFinite, Exact.ofFloat, hSign, toBits_ofBits hExponent, if_neg hExponent]
  by_cases hZero : (UInt64.ofNat n).toNat / two52 % 2048 = 0
  · rw [if_pos hZero]
  · rw [if_neg hZero]

theorem divideEven_le {num den m : Nat} (h : num < den * m) : divideEven num den ≤ m := by
  have hQuotient : num / den < m := Nat.div_lt_of_lt_mul h
  rw [divideEven]
  split <;> omega

theorem lastPlace_eq (n : Nat) :
    lastPlace n 1 =
      if (inUnits n 1 (n.log2 - 53)).1 < (inUnits n 1 (n.log2 - 53)).2 * (2 * two52) then
        (n.log2 : Int) - 53
      else (n.log2 : Int) - 52 := by
  have hOne : Nat.log2 1 = 0 := by decide
  have hMax : max ((n.log2 : Int) - (0 : Nat) - 53) (-1074) = n.log2 - 53 := by omega
  have hNext : (n.log2 : Int) - 52 = n.log2 - 53 + 1 := by omega
  rw [lastPlace, hOne, hMax, hNext]

theorem lastPlace_le (n : Nat) : lastPlace n 1 ≤ (n.log2 : Int) - 52 := by
  rw [lastPlace_eq]
  split <;> omega

/-- In units no smaller than these, a whole number fills at most 53 places. -/
theorem inUnits_lt {n : Nat} {e : Int} (h : (n.log2 : Int) - 52 ≤ e) :
    (inUnits n 1 e).1 < (inUnits n 1 e).2 * (2 * two52) := by
  have hSize : n < 2 ^ (n.log2 + 1) := Nat.lt_log2_self
  have hPow : 2 ^ (n.log2 + 1) * 2 ^ (-e).toNat ≤ 2 ^ e.toNat * 2 ^ 53 := by
    rw [← pow_add, ← pow_add]
    exact Nat.pow_le_pow_right (by decide) (by omega)
  have hShifted : n * 2 ^ (-e).toNat < 2 ^ (n.log2 + 1) * 2 ^ (-e).toNat :=
    Nat.mul_lt_mul_of_pos_right hSize (Nat.pow_pos (by decide))
  have hPlaces : 2 * two52 = 2 ^ 53 := by decide
  rw [inUnits, Nat.one_mul, hPlaces]
  exact Nat.lt_of_lt_of_le hShifted hPow

theorem inUnits_lastPlace_lt (n : Nat) :
    (inUnits n 1 (lastPlace n 1)).1 < (inUnits n 1 (lastPlace n 1)).2 * (2 * two52) := by
  rw [lastPlace_eq]
  split
  · assumption
  · exact inUnits_lt (le_refl _)

theorem nearestBits_lt {n : Nat} (h : n.log2 < 1023) : nearestBits n 1 < infinityBits := by
  rw [nearestBits]
  split
  · decide
  · have hQuotient := divideEven_le (inUnits_lastPlace_lt n)
    have hPlace := lastPlace_le n
    dsimp only
    refine Nat.lt_of_le_of_lt (Nat.min_le_left _ _) ?_
    simp only [infinityBits, two52] at hQuotient ⊢
    omega

theorem isFinite_ofInt {n : Int} (h : n.natAbs.log2 < 1023) : isFinite (ofInt n) = true := by
  rw [ofInt, nearest]
  refine isFinite_withSign ?_ _
  split
  · decide
  · rw [if_neg (by decide)]
    split
    · decide
    · simpa using nearestBits_lt h

end Household.Decimal
