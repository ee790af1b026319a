import Household.Proofs.Text.Runs

/-! # The case of ASCII letters

Texts that are equal up to the case of ASCII letters have the same words up to that case. An ASCII
text in capitals, or with a capital at its start, is such a text and is ASCII again.
-/

set_option autoImplicit false

namespace Household.Text

variable {c d : Char} {s t u v w : List Char}

/-! ## Characters -/

theorem isWordChar_iff :
    isWordChar c = true ↔
      97 ≤ c.toNat ∧ c.toNat ≤ 122 ∨ 65 ≤ c.toNat ∧ c.toNat ≤ 90 ∨
        48 ≤ c.toNat ∧ c.toNat ≤ 57 ∨ c.toNat = 95 := by
  have hScore : c = '_' ↔ c.toNat = 95 := ⟨fun h => h ▸ rfl, fun h => Char.toNat_inj.mp h⟩
  simp only [isWordChar, isDigit, Bool.or_eq_true, Bool.and_eq_true, decide_eq_true_eq, beq_iff_eq,
    Char.le_def, UInt32.le_iff_toNat_le, hScore, or_assoc]
  exact Iff.rfl

theorem isWordChar_eq_false_of_isSpace (h : isSpace c = true) : isWordChar c = false := by
  rw [Bool.eq_false_iff]
  intro hWord
  rw [isWordChar_iff] at hWord
  simp [isSpace, spaceBlocks, inBlocks] at h
  omega

theorem toNat_ofNat {n : Nat} (h : n.isValidChar) : (Char.ofNat n).toNat = n := by
  rw [Char.ofNat, dif_pos h]
  rfl

theorem toNat_asciiLower (c : Char) :
    (asciiLower c).toNat =
      if 65 ≤ c.toNat ∧ c.toNat ≤ 90 then c.toNat + 32 else c.toNat := by
  simp only [asciiLower, Bool.and_eq_true, decide_eq_true_eq, Char.le_def, UInt32.le_iff_toNat_le]
  change (if 65 ≤ c.toNat ∧ c.toNat ≤ 90 then _ else _ : Char).toNat = _
  split
  · rename_i h
    exact toNat_ofNat (.inl (by omega))
  · rfl

theorem toNat_asciiUpper (c : Char) :
    (asciiUpper c).toNat =
      if 97 ≤ c.toNat ∧ c.toNat ≤ 122 then c.toNat - 32 else c.toNat := by
  simp only [asciiUpper, Bool.and_eq_true, decide_eq_true_eq, Char.le_def, UInt32.le_iff_toNat_le]
  change (if 97 ≤ c.toNat ∧ c.toNat ≤ 122 then _ else _ : Char).toNat = _
  split
  · rename_i h
    exact toNat_ofNat (.inl (by omega))
  · rfl

theorem isWordChar_asciiLower (c : Char) : isWordChar (asciiLower c) = isWordChar c := by
  rw [Bool.eq_iff_iff, isWordChar_iff, isWordChar_iff, toNat_asciiLower]
  split <;> omega

theorem asciiLower_asciiUpper (c : Char) : asciiLower (asciiUpper c) = asciiLower c := by
  apply Char.toNat_inj.mp
  rw [toNat_asciiLower, toNat_asciiLower, toNat_asciiUpper]
  by_cases h : 97 ≤ c.toNat ∧ c.toNat ≤ 122
  · rw [if_pos h, if_pos (by omega), if_neg (by omega)]
    omega
  · rw [if_neg h]

/-- No other character has the lower-case form of one that is no letter. -/
theorem asciiLower_eq_iff
    (hd : ¬(65 ≤ d.toNat ∧ d.toNat ≤ 90) ∧ ¬(97 ≤ d.toNat ∧ d.toNat ≤ 122)) :
    asciiLower c = d ↔ c = d := by
  rw [← Char.toNat_inj, ← Char.toNat_inj, toNat_asciiLower]
  split <;> omega

theorem isWordChar_congr (h : asciiLower c = asciiLower d) : isWordChar c = isWordChar d := by
  rw [← isWordChar_asciiLower, h, isWordChar_asciiLower]

/-! ## Texts up to case -/

theorem sameLetters_refl (s : List Char) : sameLetters s s = true := sameLetters_iff.mpr rfl

theorem sameLetters_trans (hst : sameLetters s t = true) (htu : sameLetters t u = true) :
    sameLetters s u = true :=
  sameLetters_iff.mpr ((sameLetters_iff.mp hst).trans (sameLetters_iff.mp htu))

theorem sameLetters_append (hst : sameLetters s t = true) (huv : sameLetters u v = true) :
    sameLetters (s ++ u) (t ++ v) = true := by
  rw [sameLetters_iff, List.map_append, List.map_append, sameLetters_iff.mp hst,
    sameLetters_iff.mp huv]

/-- The words of a text, up to case, are those of any text with the same letters. -/
theorem map_runs_of_sameLetters (h : sameLetters s t = true) :
    (runs isWordChar s).map (List.map asciiLower) =
      (runs isWordChar t).map (List.map asciiLower) := by
  rw [← runs_map isWordChar_asciiLower, ← runs_map isWordChar_asciiLower, sameLetters_iff.mp h]

theorem exists_mem_runs_of_sameLetters (h : sameLetters s t = true)
    (hw : w ∈ runs isWordChar s) : ∃ v ∈ runs isWordChar t, sameLetters w v = true := by
  have hLower : w.map asciiLower ∈ (runs isWordChar t).map (List.map asciiLower) :=
    map_runs_of_sameLetters h ▸ List.mem_map_of_mem hw
  obtain ⟨v, hv, hSame⟩ := List.mem_map.mp hLower
  exact ⟨v, hv, sameLetters_iff.mpr hSame.symm⟩

/-! ## ASCII texts -/

def IsAscii (s : List Char) : Prop := ∀ c ∈ s, c.toNat < 128

-- Named, since the characters of the text are to be looked at, not all characters there are.
instance (s : List Char) : Decidable (IsAscii s) :=
  List.decidableBAll (fun c : Char => c.toNat < 128) s

theorem upperForm_of_ascii (h : c.toNat < 128) : upperForm c = [asciiUpper c] := by
  rw [upperForm, if_pos h]

theorem sameLetters_upperForm (h : c.toNat < 128) : sameLetters (upperForm c) [c] = true := by
  rw [upperForm_of_ascii h, sameLetters_iff, List.map_singleton, List.map_singleton,
    asciiLower_asciiUpper]

theorem sameLetters_uppercase (h : IsAscii s) : sameLetters (uppercase s) s = true := by
  induction s with
  | nil => rfl
  | cons c rest ih =>
    have hRest : IsAscii rest := fun d hd => h d (List.mem_cons_of_mem _ hd)
    exact sameLetters_append (sameLetters_upperForm (h c List.mem_cons_self)) (ih hRest)

theorem sameLetters_capitalize (h : IsAscii s) : sameLetters (capitalize s) s = true := by
  cases s with
  | nil => rfl
  | cons c rest =>
    exact sameLetters_append (sameLetters_upperForm (h c List.mem_cons_self))
      (sameLetters_refl rest)

end Household.Text
