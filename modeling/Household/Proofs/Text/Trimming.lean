import Mathlib.Data.List.DropRight
import Household.Proofs.Text.AsciiCase

/-! # Trimmed texts

A text is trimmed if it neither begins nor ends with white space. Trimming leaves such a text as it
is, and it goes along with any change of characters that keeps white space apart.
-/

set_option autoImplicit false

namespace Household.Text

variable {p : Char → Bool} {s t : List Char}

theorem dropEndWhile_eq_rdropWhile (p : Char → Bool) (s : List Char) :
    dropEndWhile p s = s.rdropWhile p := by
  induction s with
  | nil => simp [dropEndWhile]
  | cons c rest ih =>
    rw [dropEndWhile, ih, List.rdropWhile, List.rdropWhile, List.reverse_cons,
      List.dropWhile_append]
    cases hRest : rest.reverse.dropWhile p with
    | nil => by_cases hc : p c = true <;> simp [List.dropWhile, hc]
    | cons d kept =>
      rw [List.isEmpty_cons, if_neg Bool.false_ne_true, List.reverse_append]
      split
      · rename_i hNil
        simp at hNil
      · rfl

theorem dropEndWhile_append (p : Char → Bool) (s t : List Char) :
    dropEndWhile p (s ++ t) =
      if dropEndWhile p t = [] then dropEndWhile p s else s ++ dropEndWhile p t := by
  induction s with
  | nil =>
    rw [dropEndWhile_nil]
    split
    · assumption
    · rfl
  | cons c rest ih =>
    rw [List.cons_append, dropEndWhile, ih]
    by_cases ht : dropEndWhile p t = []
    · rw [if_pos ht, if_pos ht, dropEndWhile]
    · rw [if_neg ht, if_neg ht]
      split
      · rename_i hNil
        exact absurd (List.append_eq_nil_iff.mp hNil).2 ht
      · rfl

theorem dropEndWhile_eq_nil (h : s.all p = true) : dropEndWhile p s = [] := by
  rw [dropEndWhile_eq_rdropWhile, List.rdropWhile_eq_nil_iff]
  exact List.all_eq_true.mp h

theorem dropEndWhile_eq_self (h : s.getLast?.any p = false) : dropEndWhile p s = s := by
  rw [dropEndWhile_eq_rdropWhile, List.rdropWhile_eq_self_iff]
  intro hs
  rw [List.getLast?_eq_some_getLast hs, Option.any_some] at h
  exact Bool.eq_false_iff.mp h

theorem dropWhile_eq_self (h : s.head?.any p = false) : s.dropWhile p = s := by
  cases s with
  | nil => rfl
  | cons c rest => exact List.dropWhile_cons_of_neg (Bool.eq_false_iff.mp h)

theorem trim_eq_self (hFirst : s.head?.any isSpace = false) (hLast : s.getLast?.any isSpace = false) :
    trim s = s := by
  rw [trim, trimEnd, trimStart, dropWhile_eq_self hFirst, dropEndWhile_eq_self hLast]

theorem any_isSpace_eq_false {c? : Option Char} (h : c?.any (!isSpace ·) = true) :
    c?.any isSpace = false := by
  cases c? with
  | none => rfl
  | some c => simpa using h

theorem any_head?_dropWhile_isSpace (s : List Char) (h : s.dropWhile isSpace ≠ []) :
    (s.dropWhile isSpace).head?.any (!isSpace ·) = true := by
  cases hBody : s.dropWhile isSpace with
  | nil => exact absurd hBody h
  | cons c body =>
    have hFirst := any_head?_dropWhile isSpace s
    rw [hBody] at hFirst
    simpa using hFirst

/-- Trimming takes away white space and nothing else. -/
theorem exists_append_trim (s : List Char) :
    ∃ before after, s = before ++ (trim s ++ after) ∧ before.all isSpace = true ∧
      after.all isSpace = true := by
  obtain ⟨after, hBody, hAfter⟩ := exists_append_dropEndWhile isSpace (s.dropWhile isSpace)
  refine ⟨s.takeWhile isSpace, after, ?_, List.all_takeWhile, hAfter⟩
  rw [trim, trimEnd, trimStart, ← hBody, List.takeWhile_append_dropWhile]

theorem trim_ne_nil (h : isBlank s = false) : trim s ≠ [] := by
  intro hNil
  obtain ⟨before, after, hSpells, hBefore, hAfter⟩ := exists_append_trim s
  rw [hNil, List.nil_append] at hSpells
  rw [isBlank, hSpells, List.all_append, hBefore, hAfter] at h
  cases h

theorem any_head?_trim (h : trim s ≠ []) : (trim s).head?.any (!isSpace ·) = true := by
  obtain ⟨after, hBody, -⟩ := exists_append_dropEndWhile isSpace (s.dropWhile isSpace)
  have hFirst := any_head?_dropWhile isSpace s
  rw [hBody] at hFirst
  rw [trim, trimEnd, trimStart] at h ⊢
  cases hKept : dropEndWhile isSpace (s.dropWhile isSpace) with
  | nil => exact absurd hKept h
  | cons c kept =>
    rw [hKept] at hFirst
    simpa using hFirst

theorem any_getLast?_trimEnd (h : trimEnd s ≠ []) :
    (trimEnd s).getLast?.any (!isSpace ·) = true := by
  obtain ⟨c, hLast⟩ := Option.ne_none_iff_exists'.mp (mt List.getLast?_eq_none_iff.mp h)
  simp [hLast, getLast_dropEndWhile isSpace s hLast]

theorem any_getLast?_trim (h : trim s ≠ []) : (trim s).getLast?.any (!isSpace ·) = true :=
  any_getLast?_trimEnd h

theorem trim_trim (s : List Char) : trim (trim s) = trim s := by
  by_cases h : trim s = []
  · rw [h]
    rfl
  · exact trim_eq_self (any_isSpace_eq_false (any_head?_trim h))
      (any_isSpace_eq_false (any_getLast?_trim h))

theorem trim_map {f : Char → Char} (h : ∀ c, isSpace (f c) = isSpace c) (s : List Char) :
    trim (s.map f) = (trim s).map f := by
  have hSame : isSpace ∘ f = isSpace := funext h
  rw [trim, trimEnd, trimStart, dropEndWhile_eq_rdropWhile, List.rdropWhile, List.dropWhile_map,
    hSame, ← List.map_reverse, List.dropWhile_map, hSame, ← List.map_reverse]
  rw [trim, trimEnd, trimStart, dropEndWhile_eq_rdropWhile, List.rdropWhile]

theorem isSpace_eq_false_of_isWordChar {c : Char} (h : isWordChar c = true) :
    isSpace c = false := by
  rw [Bool.eq_false_iff]
  intro hSpace
  rw [isWordChar_eq_false_of_isSpace hSpace] at h
  cases h

theorem any_getLast?_of_forall (h : ∀ c ∈ s, p c = false) : s.getLast?.any p = false := by
  cases hLast : s.getLast? with
  | none => rfl
  | some c => exact h c (List.mem_of_getLast? hLast)

/-- White space around a text is trimmed away, and nothing of the text. -/
theorem trim_append {before after : List Char} (hBefore : before.all isSpace = true)
    (hAfter : after.all isSpace = true) (hNonempty : s ≠ [])
    (hFirst : s.head?.any isSpace = false) (hLast : s.getLast?.any isSpace = false) :
    trim (before ++ s ++ after) = s := by
  have hStart : (s ++ after).head?.any isSpace = false := by
    rwa [List.head?_append_of_ne_nil _ hNonempty]
  rw [trim, trimStart, trimEnd, List.append_assoc,
    List.dropWhile_append_of_pos (List.all_eq_true.mp hBefore), dropWhile_eq_self hStart,
    dropEndWhile_append, if_pos (dropEndWhile_eq_nil hAfter), dropEndWhile_eq_self hLast]

/-- What is trimmed away lies in front of something visible, or behind it. -/
theorem trim_append_of_visible {before after : List Char} (hAfter : after.all isSpace = true)
    (hFirst : s.head?.any (!isSpace ·) = true) (hLast : s.getLast?.any (!isSpace ·) = true) :
    trim (before ++ (s ++ after)) = before.dropWhile isSpace ++ s := by
  have hStart : (before ++ (s ++ after)).dropWhile isSpace =
      before.dropWhile isSpace ++ (s ++ after) := by
    obtain ⟨c, hc, hSpace⟩ := (Option.any_eq_true _ _).mp hFirst
    obtain ⟨rest, rfl⟩ := List.head?_eq_some_iff.mp hc
    have hStop : (c :: rest ++ after).dropWhile isSpace = c :: rest ++ after :=
      List.dropWhile_cons_of_neg (by simpa using hSpace)
    rw [List.dropWhile_append, hStop]
    split
    · rename_i hNil
      rw [List.isEmpty_iff.mp hNil, List.nil_append]
    · rfl
  obtain ⟨c, hc, hSpace⟩ := (Option.any_eq_true _ _).mp hLast
  have hKept : (before.dropWhile isSpace ++ s).getLast?.any isSpace = false := by
    rw [List.getLast?_append, hc]
    simpa using hSpace
  rw [trim, trimStart, hStart, trimEnd, ← List.append_assoc, dropEndWhile_append,
    if_pos (dropEndWhile_eq_nil hAfter), dropEndWhile_eq_self hKept]

theorem isSpace_asciiLower (c : Char) : isSpace (asciiLower c) = isSpace c := by
  by_cases hc : isWordChar c = true
  · have hLower : isWordChar (asciiLower c) = true := (isWordChar_asciiLower c).trans hc
    rw [isSpace_eq_false_of_isWordChar hc, isSpace_eq_false_of_isWordChar hLower]
  · have hSelf : asciiLower c = c := by
      apply Char.toNat_inj.mp
      rw [toNat_asciiLower, if_neg]
      rw [isWordChar_iff] at hc
      omega
    rw [hSelf]

theorem asciiLower_asciiLower (c : Char) : asciiLower (asciiLower c) = asciiLower c := by
  apply Char.toNat_inj.mp
  rw [toNat_asciiLower, toNat_asciiLower]
  by_cases hc : 65 ≤ c.toNat ∧ c.toNat ≤ 90
  · rw [if_pos hc, if_neg (by omega)]
  · rw [if_neg hc, if_neg hc]

end Household.Text
