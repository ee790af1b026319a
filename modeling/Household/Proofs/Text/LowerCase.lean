import Household.Proofs.Text.AsciiCase

/-! # Lower-case characters

A character is in lower case if it is its own lower-case form. The lower-case form of any character
consists of such characters, and so does a text in lower case. The tables of forms bear this out:
no form that one of their runs gives is a member of another.
-/

set_option autoImplicit false

namespace Household.Text

def IsLower (c : Char) : Prop := lowerForm c = [c]

instance (c : Char) : Decidable (IsLower c) := inferInstanceAs (Decidable (lowerForm c = [c]))

variable {c d : Char} {s before : List Char}

/-- The runs of all characters that are not in lower case. -/
def raisedRuns : List (Nat × Nat × Nat × Nat) :=
  (0x41, 0x5a, 1, 0x61) :: lowerFormExpansions.map (fun e => (e.1, e.1, 1, 0)) ++ lowerFormRuns

theorem isLower_of_not_inRun
    (h : ∀ r ∈ raisedRuns, inRun r.1 r.2.1 r.2.2.1 c.toNat = false) : IsLower c := by
  have hAscii := h (0x41, 0x5a, 1, 0x61) List.mem_cons_self
  rw [IsLower, lowerForm]
  split
  · apply congrArg (· :: [])
    apply Char.toNat_inj.mp
    rw [toNat_asciiLower, if_neg]
    intro hRange
    simp [inRun, hRange, Nat.mod_one] at hAscii
  · have hWhole : lowerFormExpansions.find? (·.1 == c.toNat) = none := by
      rw [List.find?_eq_none]
      intro e he hEq
      have hRun := h (e.1, e.1, 1, 0) (List.mem_cons_of_mem _
        (List.mem_append_left _ (List.mem_map_of_mem he)))
      simp [inRun, eq_of_beq hEq] at hRun
    rw [formOf, hWhole]
    dsimp only
    split
    · rename_i first last step form hFind
      have hMem := List.mem_of_find?_eq_some hFind
      have hRun : inRun first last step c.toNat = true :=
        List.find?_some (a := (first, last, step, form)) hFind
      rw [h _ (List.mem_cons_of_mem _ (List.mem_append_right _ hMem))] at hRun
      cases hRun
    · rfl

/-- No form that the first run gives is a member of the second. -/
def formsApart (r q : Nat × Nat × Nat × Nat) : Bool :=
  (r.2.2.2 + (r.2.1 - r.1)).blt q.1 || q.2.1.blt r.2.2.2 ||
    (q.2.2.1.beq 2 && (r.2.2.1.beq 2 || r.1.beq r.2.1) && ((r.2.2.2 + q.1) % 2).beq 1)

theorem formsApart_lowerFormRuns :
    lowerFormRuns.all (fun r => raisedRuns.all fun q => formsApart r q) = true := by
  decide +kernel

theorem inRun_eq_false_of_formsApart {r q : Nat × Nat × Nat × Nat} {i : Nat}
    (h : formsApart r q = true) (hi : i ≤ r.2.1 - r.1) (hStep : i % r.2.2.1 = 0) :
    inRun q.1 q.2.1 q.2.2.1 (r.2.2.2 + i) = false := by
  rw [Bool.eq_false_iff]
  intro hRun
  obtain ⟨hFirst, hLast, hSteps⟩ := inRun_iff.mp hRun
  simp only [formsApart, Bool.or_eq_true, Bool.and_eq_true, Nat.blt_eq, Nat.beq_eq] at h
  rcases h with (hBelow | hAbove) | ⟨⟨hTwo, hEven⟩, hOdd⟩
  · omega
  · omega
  · -- Both runs go in steps of two, one over odd and one over even numbers.
    rw [hTwo] at hSteps
    have hi2 : i % 2 = 0 := by
      rcases hEven with hEven | hOne
      · rwa [hEven] at hStep
      · omega
    omega

theorem isLower_asciiLower (h : c.toNat < 128) : IsLower (asciiLower c) := by
  have hLower := toNat_asciiLower c
  have hAscii : (asciiLower c).toNat < 128 := by
    split at hLower <;> omega
  rw [IsLower, lowerForm, if_pos hAscii]
  apply congrArg (· :: [])
  apply Char.toNat_inj.mp
  rw [toNat_asciiLower, hLower]
  split
  · exact if_neg (by omega)
  · rfl

theorem isLower_formOf_run {r : Nat × Nat × Nat × Nat} (hr : r ∈ lowerFormRuns)
    (h : inRun r.1 r.2.1 r.2.2.1 c.toNat = true) :
    IsLower (Char.ofNat (r.2.2.2 + (c.toNat - r.1))) := by
  obtain ⟨hFirst, hLast, hStep⟩ := inRun_iff.mp h
  by_cases hValid : (r.2.2.2 + (c.toNat - r.1)).isValidChar
  · apply isLower_of_not_inRun
    intro q hq
    have hApart := List.all_eq_true.mp (List.all_eq_true.mp formsApart_lowerFormRuns r hr) q hq
    rw [toNat_ofNat hValid]
    exact inRun_eq_false_of_formsApart hApart (by omega) hStep
  · rw [Char.ofNat, dif_neg hValid]
    exact (by decide : IsLower '\x00')

theorem isLower_of_mem_lowerForm (h : d ∈ lowerForm c) : IsLower d := by
  have hExpansions : ∀ e ∈ lowerFormExpansions, ∀ n ∈ e.2, IsLower (Char.ofNat n) := by
    decide +kernel
  rw [lowerForm] at h
  split at h
  · rename_i hAscii
    rw [List.mem_singleton.mp h]
    exact isLower_asciiLower hAscii
  · rename_i hAscii
    rw [formOf] at h
    split at h
    · rename_i form hFind
      obtain ⟨n, hn, rfl⟩ := List.mem_map.mp h
      exact hExpansions _ (List.mem_of_find?_eq_some hFind) n hn
    · rename_i hWhole
      split at h
      · rename_i first last step form hFind
        have hRun : inRun first last step c.toNat = true :=
          List.find?_some (a := (first, last, step, form)) hFind
        rw [List.mem_singleton.mp h]
        exact isLower_formOf_run (List.mem_of_find?_eq_some hFind) hRun
      · rename_i hRuns
        rw [List.mem_singleton.mp h, IsLower, lowerForm, if_neg hAscii, formOf, hWhole]
        dsimp only
        rw [hRuns]

theorem isLower_of_mem_lowercase (h : d ∈ lowercase s) : IsLower d := by
  suffices hAfter : ∀ before, d ∈ lowercaseAfter before s → IsLower d from hAfter [] h
  clear h
  induction s with
  | nil => exact fun _ h => nomatch h
  | cons c rest ih =>
    intro before h
    rw [lowercaseAfter] at h
    rcases List.mem_append.mp h with hForm | hRest
    · split at hForm
      · rw [List.mem_singleton.mp hForm, lowerSigma]
        split <;> decide +kernel
      · exact isLower_of_mem_lowerForm hForm
    · exact ih _ hRest

theorem lowerForm_ne_nil (c : Char) : lowerForm c ≠ [] := by
  have hExpansions : ∀ e ∈ lowerFormExpansions, e.2 ≠ [] := by decide
  rw [lowerForm]
  split
  · exact List.cons_ne_nil _ _
  · rw [formOf]
    split
    · rename_i form hFind
      exact mt List.map_eq_nil_iff.mp (hExpansions _ (List.mem_of_find?_eq_some hFind))
    · split <;> exact List.cons_ne_nil _ _

theorem lowercase_ne_nil (h : s ≠ []) : lowercase s ≠ [] := by
  obtain ⟨c, rest, rfl⟩ := List.exists_cons_of_ne_nil h
  rw [lowercase, lowercaseAfter]
  intro hNil
  have hFirst := (List.append_eq_nil_iff.mp hNil).1
  split at hFirst
  · cases hFirst
  · exact lowerForm_ne_nil c hFirst

end Household.Text
