import Household.Decimal.Written
import Household.Text.Letter

/-! # The shape of plain numerals

A finite number that is set out plainly is an optional minus, a digit, and then digits and points
only: no exponent and no name.
-/

set_option autoImplicit false

namespace Household.Decimal

open Household.Text

/-- A digit and then digits and points. -/
def IsNumeral (s : List Char) : Prop :=
  s.head?.any isDigit = true ∧ ∀ c ∈ s, isDigit c = true ∨ c = '.'

variable {c : Char} {n : Nat}

theorem isDigit_of_mem_digitText (h : c ∈ digitText n) : isDigit c = true := by
  have hDigit : c.isDigit = true := Nat.isDigit_of_mem_toDigits (by decide) (by decide) h
  simpa [Char.isDigit, isDigit, Char.le_def] using hDigit

theorem isDigit_of_mem_zeros (h : c ∈ zeros n) : isDigit c = true := by
  rw [List.eq_of_mem_replicate h]
  decide

theorem IsNumeral.of_append {whole rest : List Char} (hWhole : whole ≠ [])
    (hDigits : ∀ c ∈ whole, isDigit c = true) (hRest : ∀ c ∈ rest, isDigit c = true ∨ c = '.') :
    IsNumeral (whole ++ rest) := by
  constructor
  · obtain ⟨c, whole, rfl⟩ := List.exists_cons_of_ne_nil hWhole
    exact hDigits c List.mem_cons_self
  · intro c hc
    exact (List.mem_append.mp hc).elim (fun h => .inl (hDigits c h)) (hRest c)

theorem isNumeral_positional (d : Digits) : IsNumeral (d.positional false) := by
  unfold Digits.positional
  extract_lets text places padded
  have hText : text ≠ [] := Nat.toDigits_ne_nil
  split
  · rw [List.append_assoc]
    refine .of_append hText (fun c => isDigit_of_mem_digitText) fun c hc => .inl ?_
    rw [if_neg Bool.false_ne_true, List.append_nil] at hc
    exact isDigit_of_mem_zeros hc
  · -- the padding leaves at least one digit before the point
    have hPadded : ∀ c ∈ padded, isDigit c = true := fun c hc =>
      (List.mem_append.mp hc).elim isDigit_of_mem_zeros isDigit_of_mem_digitText
    have hLength : places < padded.length := by
      simp only [padded, zeros, List.length_append, List.length_replicate]
      omega
    refine .of_append ?_ (fun c hc => hPadded c (List.mem_of_mem_take hc)) fun c hc => ?_
    · rw [← List.length_pos_iff, List.length_take]
      omega
    · obtain rfl | hc := List.mem_cons.mp hc
      · exact .inr rfl
      · exact .inl (hPadded c (List.mem_of_mem_drop hc))

theorem exists_write_plain {x : Float} (h : isFinite x = true) :
    ∃ s, IsNumeral s ∧ ((write .plain x).toList = s ∨ (write .plain x).toList = '-' :: s) := by
  unfold isFinite at h
  unfold write
  split at h
  · rename_i negative m q hExact
    rw [hExact]
    refine ⟨if m = 0 then Digits.positional ⟨0, 0⟩ false
      else (shortest .up m q).positional false, ?_, ?_⟩
    · split <;> exact isNumeral_positional _
    · cases negative
      · exact .inl (by simp [Digits.write, Layout.plain])
      · exact .inr (by simp [Digits.write, Layout.plain])
  · cases h

end Household.Decimal
