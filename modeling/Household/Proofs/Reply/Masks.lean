import Household.Proofs.Reply.Parts
import Household.Proofs.Text.AsciiCase

/-! # Masks

A mask stands in a text where its stem and one of its endings are spelled in any ASCII case, with a
word boundary on either side. It then covers a word of the text. Whether a word is covered does not
depend on its case, and most words that are put into replies are covered by no mask.
-/

set_option autoImplicit false

namespace Household.Reply

open Household.Text

def Endings.Allow : Endings → List Char → Prop
  | .any, ending => ending.all isWordChar = true
  | .oneOf endings, ending => ∃ known ∈ endings, ending = known.toList

namespace Mask

/-- The stem and one of the endings, in any ASCII case. -/
def Spells (m : Mask) (found : List Char) : Prop :=
  ∃ ending, m.endings.Allow ending ∧ sameLetters found (m.stem.toList ++ ending) = true

def StandsIn (m : Mask) (text : List Char) : Prop :=
  ∃ before found after, text = before ++ found ++ after ∧ m.Spells found ∧
    Boundary before.getLast? (found ++ after).head? ∧ Boundary (before ++ found).getLast? after.head?

end Mask

/-- A word character that is no capital. -/
def isPlain (c : Char) : Bool := isWordChar c && asciiLower c == c

def Endings.isPlain : Endings → Bool
  | .any => true
  | .oneOf endings => endings.all (·.toList.all Reply.isPlain)

namespace Mask

def isPlain (m : Mask) : Bool :=
  !m.stem.toList.isEmpty && m.stem.toList.all Reply.isPlain && m.endings.isPlain

variable {m : Mask} {s found text v w : List Char}

theorem map_asciiLower_of_isPlain (h : s.all Reply.isPlain = true) : s.map asciiLower = s := by
  have hSame : ∀ c ∈ s, asciiLower c = id c := by
    intro c hc
    have hPlain := List.all_eq_true.mp h c hc
    exact eq_of_beq (Bool.and_eq_true_iff.mp hPlain).2
  rw [List.map_congr_left hSame, List.map_id]

theorem all_isWordChar_of_isPlain (h : s.all Reply.isPlain = true) : s.all isWordChar = true := by
  rw [List.all_eq_true] at h ⊢
  intro c hc
  exact (Bool.and_eq_true_iff.mp (h c hc)).1

theorem all_isWordChar_of_sameLetters (h : sameLetters s w = true)
    (hw : w.all isWordChar = true) : s.all isWordChar = true := by
  have hLower (t : List Char) : (t.map asciiLower).all isWordChar = t.all isWordChar := by
    rw [List.all_map]
    exact congrArg t.all (funext isWordChar_asciiLower)
  rw [← hLower, sameLetters_iff.mp h, hLower]
  exact hw

theorem covers_congr (h : sameLetters v w = true) : m.covers v = m.covers w := by
  rw [covers, covers, sameLetters_iff.mp h]

/-- What a mask spells is a word, and the mask covers it. -/
theorem covers_of_spells (hm : m.isPlain = true) (h : m.Spells found) :
    found ≠ [] ∧ found.all isWordChar = true ∧ m.covers found = true := by
  obtain ⟨ending, hAllow, hSame⟩ := h
  simp only [isPlain, Bool.and_eq_true, Bool.not_eq_true', List.isEmpty_eq_false_iff] at hm
  obtain ⟨⟨hStem, hPlain⟩, hEndings⟩ := hm
  have hLower : found.map asciiLower = m.stem.toList ++ ending.map asciiLower := by
    rw [sameLetters_iff.mp hSame, List.map_append, map_asciiLower_of_isPlain hPlain]
  have hFound : found ≠ [] := by
    rintro rfl
    exact hStem (List.append_eq_nil_iff.mp hLower.symm).1
  rw [covers, hLower]
  cases hKind : m.endings with
  | any =>
    rw [hKind] at hAllow
    have hWord : (m.stem.toList ++ ending).all isWordChar = true := by
      rw [List.all_append, all_isWordChar_of_isPlain hPlain, hAllow, Bool.and_self]
    refine ⟨hFound, all_isWordChar_of_sameLetters hSame hWord, ?_⟩
    exact List.isPrefixOf_iff_prefix.mpr (List.prefix_append _ _)
  | oneOf endings =>
    rw [hKind] at hAllow hEndings
    obtain ⟨known, hKnown, rfl⟩ := hAllow
    have hEnding : known.toList.all Reply.isPlain = true := List.all_eq_true.mp hEndings known hKnown
    have hWord : (m.stem.toList ++ known.toList).all isWordChar = true := by
      rw [List.all_append, all_isWordChar_of_isPlain hPlain, all_isWordChar_of_isPlain hEnding,
        Bool.and_self]
    refine ⟨hFound, all_isWordChar_of_sameLetters hSame hWord, List.any_eq_true.mpr ?_⟩
    exact ⟨known, hKnown, by rw [map_asciiLower_of_isPlain hEnding, beq_self_eq_true]⟩

/-- A mask that stands in a text covers one of its words. -/
theorem exists_of_standsIn (hm : m.isPlain = true) (h : m.StandsIn text) :
    ∃ w ∈ runs isWordChar text, m.covers w = true := by
  obtain ⟨before, found, after, rfl, hSpells, hStart, hEnd⟩ := h
  obtain ⟨hFound, hWord, hCovers⟩ := covers_of_spells hm hSpells
  obtain ⟨c, rest, rfl⟩ := List.exists_cons_of_ne_nil hFound
  obtain ⟨d, hLast⟩ := Option.ne_none_iff_exists'.mp (mt List.getLast?_eq_none_iff.mp hFound)
  have hc : isWordChar c = true := List.all_eq_true.mp hWord c List.mem_cons_self
  have hd : isWordChar d = true := List.all_eq_true.mp hWord d (List.mem_of_getLast? hLast)
  rw [List.cons_append, List.head?_cons] at hStart
  rw [List.getLast?_append, hLast, Option.some_or] at hEnd
  have hBefore : before.getLast?.any isWordChar = false := by
    rw [Boundary, Option.any_some, hc] at hStart
    simpa using hStart
  have hAfter : after.head?.any isWordChar = false := by
    rw [Boundary, Option.any_some, hd] at hEnd
    simpa using hEnd
  exact ⟨c :: rest, mem_runs_append hWord hFound hBefore hAfter, hCovers⟩

end Mask

namespace Category

variable {c : Category} {v w : List Char}

theorem covers_congr (h : sameLetters v w = true) : c.covers v = c.covers w := by
  rw [covers, covers]
  exact congrArg c.masks.any (funext fun m => m.covers_congr h)

theorem isPlain_of_mem_masks : ∀ c ∈ categories, ∀ m ∈ c.masks, m.isPlain = true := by
  decide

end Category

/-- No mask of any category covers the word. -/
def isHarmless (w : List Char) : Bool := categories.all fun c => !c.covers w

theorem isHarmless_congr {v w : List Char} (h : sameLetters v w = true) :
    isHarmless v = isHarmless w := by
  rw [isHarmless, isHarmless]
  exact congrArg categories.all (funext fun c => congrArg not (c.covers_congr h))

theorem covers_eq_false_of_isHarmless {c : Category} {w : List Char} (hc : c ∈ categories)
    (h : isHarmless w = true) : c.covers w = false := by
  have hNot := List.all_eq_true.mp h c hc
  rwa [Bool.not_eq_true'] at hNot

end Household.Reply
