import Household.Proofs.Reply.Avoiding
import Household.Proofs.Reply.Rewriting

/-! # Mentions of a concept

A sentence mentions a phrase where the phrase stands in it with word boundaries at both ends. Between
white space there are such boundaries exactly if the phrase begins and ends on word characters. So a
concept like that is found wherever it stands free, and its sentence is dropped; one that ends on a
sign, or on a letter beyond ASCII, is passed over.
-/

set_option autoImplicit false

namespace Household.Reply

open Household.Text

variable {phrase text s before found after : List Char} {concepts : List String}

/-! ## Places of mention -/

theorem occursAfter_iff {last : Option Char} :
    occursAfter phrase last text = true ↔ ∃ front rest, text = front ++ rest ∧
      (matchPhrase sameLetter phrase (front.getLast?.or last) rest).isSome = true := by
  induction text generalizing last with
  | nil =>
    rw [occursAfter]
    constructor
    · exact fun h => ⟨[], [], rfl, h⟩
    · rintro ⟨front, rest, hNil, h⟩
      obtain ⟨rfl, rfl⟩ := List.append_eq_nil_iff.mp hNil.symm
      exact h
  | cons c text ih =>
    rw [occursAfter, Bool.or_eq_true, ih]
    constructor
    · rintro (h | ⟨front, rest, rfl, h⟩)
      · exact ⟨[], c :: text, rfl, h⟩
      · exact ⟨c :: front, rest, rfl, by rwa [getLast?_cons_or]⟩
    · rintro ⟨front, rest, hSplit, h⟩
      cases front with
      | nil => exact .inl (hSplit ▸ h)
      | cons d front =>
        obtain ⟨rfl, rfl⟩ := List.cons.inj hSplit
        exact .inr ⟨front, rest, rfl, by rwa [getLast?_cons_or] at h⟩

theorem mentions_iff :
    mentions phrase text = true ↔ ∃ before rest, text = before ++ rest ∧
      (matchPhrase sameLetter phrase before.getLast? rest).isSome = true := by
  rw [mentions, occursAfter_iff]
  simp only [Option.or_none]

/-! ## Phrases that stand free -/

/-- The phrase stands between `before` and `after`, in any ASCII case, with white space or the edge
of the text on either side. -/
structure StandsFree (phrase before found after : List Char) : Prop where
  same : sameLetters found phrase = true
  left : before.getLast?.all isSpace = true
  right : after.head?.all isSpace = true

theorem forall₂_upToCase_iff :
    List.Forall₂ UpToCase phrase found ↔ sameLetters found phrase = true := by
  rw [sameLetters_iff, eq_comm, ← List.forall₂_eq_eq_eq, List.forall₂_map_left_iff,
    List.forall₂_map_right_iff]
  rfl

theorem isWordlike_congr (h : sameLetters found phrase = true) :
    IsWordlike found ↔ IsWordlike phrase := by
  have hLower (t : List Char) : IsWordlike (t.map asciiLower) ↔ IsWordlike t := by
    simp only [IsWordlike, List.head?_map, List.getLast?_map, Option.any_map,
      isWordChar_asciiLower]
  rw [← hLower found, sameLetters_iff.mp h, hLower]

theorem isWordAt_eq_false_of_space {c? : Option Char} (h : c?.all isSpace = true) :
    isWordAt c? = false := by
  cases c? with
  | none => rfl
  | some c => exact isWordChar_eq_false_of_isSpace h

namespace StandsFree

theorem found_ne_nil (h : StandsFree phrase before found after) (hPhrase : phrase ≠ []) :
    found ≠ [] := by
  rintro rfl
  exact hPhrase (List.map_eq_nil_iff.mp (sameLetters_iff.mp h.same).symm)

/-- Where a phrase stands free there are boundaries if it begins and ends on word characters. -/
theorem isSome_matchPhrase_iff (h : StandsFree phrase before found after) (hPhrase : phrase ≠ []) :
    (matchPhrase sameLetter phrase before.getLast? (found ++ after)).isSome = true ↔
      IsWordlike phrase := by
  have hFound := h.found_ne_nil hPhrase
  have hBounds :
      (Boundary before.getLast? (found ++ after).head? ∧
        Boundary (found.getLast?.or before.getLast?) after.head?) ↔ IsWordlike phrase := by
    obtain ⟨c, hLast⟩ := Option.ne_none_iff_exists'.mp (mt List.getLast?_eq_none_iff.mp hFound)
    rw [← isWordlike_congr h.same, IsWordlike, List.head?_append_of_ne_nil _ hFound, hLast,
      Option.some_or, Boundary, Boundary, ← isWordAt_eq_any before.getLast?,
      ← isWordAt_eq_any after.head?, isWordAt_eq_false_of_space h.left,
      isWordAt_eq_false_of_space h.right]
    simp
  rw [← hBounds]
  constructor
  · intro hMatch
    obtain ⟨⟨found', after'⟩, hMatch⟩ := Option.isSome_iff_exists.mp hMatch
    obtain ⟨hSplit, hSame, hStart, hEnd⟩ := matchPhrase_sameLetter_iff.mp hMatch
    have hLength : found.length = found'.length :=
      (forall₂_upToCase_iff.mpr h.same).length_eq.symm.trans hSame.length_eq
    obtain ⟨rfl, rfl⟩ := List.append_inj hSplit hLength
    exact ⟨hStart, hEnd⟩
  · rintro ⟨hStart, hEnd⟩
    rw [matchPhrase_sameLetter_iff.mpr ⟨rfl, forall₂_upToCase_iff.mpr h.same, hStart, hEnd⟩]
    rfl

theorem mentions (h : StandsFree phrase before found after) (hPhrase : IsWordlike phrase) :
    mentions phrase (before ++ (found ++ after)) = true := by
  have hNe : phrase ≠ [] := by
    rintro rfl
    cases hPhrase.1
  exact mentions_iff.mpr ⟨before, found ++ after, rfl, (h.isSome_matchPhrase_iff hNe).mpr hPhrase⟩

end StandsFree

/-! ## Sentences that go -/

/-- The sentence is not among those that are left, which are some of the sentences of the text; or
none of them is left. -/
def Drops (concepts : List String) (text s : List Char) : Prop :=
  ∃ e, avoid? concepts text = some e ∧
    ((sentences e.text).Sublist (sentences text) ∧ s ∉ sentences e.text ∨
      e.text = fallbackSentence.toList ∧ ∀ t ∈ sentences text, isFree concepts t = false)

theorem drops_of_not_isFree (hs : s ∈ sentences text) (h : isFree concepts s = false) :
    Drops concepts text s := by
  have hGone : s ∉ freeSentences concepts text := by
    intro hLeft
    rw [(List.mem_filter.mp hLeft).2] at h
    cases h
  have hMentioned : mentionedIn concepts text ≠ [] := by
    intro hNone
    rw [mentionedIn_eq_nil_iff.mp hNone] at hGone
    exact hGone hs
  rw [Drops, avoid?_eq, if_neg hMentioned]
  by_cases hLeft : withoutMentions concepts text = []
  · refine ⟨_, by rw [if_pos hLeft], .inr ⟨rfl, fun t ht => ?_⟩⟩
    have hNone := List.filter_eq_nil_iff.mp (withoutMentions_eq_nil_iff.mp hLeft) t ht
    exact Bool.eq_false_iff.mpr hNone
  · refine ⟨_, by rw [if_neg hLeft], .inl ?_⟩
    dsimp only
    rw [sentences_withoutMentions]
    exact ⟨List.filter_sublist, hGone⟩

theorem isFree_eq_false_of_mentions {c : String} (hc : c ∈ concepts) (hBlank : trim c.toList ≠ [])
    (h : mentions (trim c.toList) s = true) : isFree concepts s = false := by
  rw [Bool.eq_false_iff]
  intro hFree
  simpa [hBlank, h] using List.all_eq_true.mp hFree c hc

/-- Where a concept stands free in a sentence it is found exactly if it begins and ends on word
characters, and the sentence is dropped then. -/
theorem avoid?_drops_free_standing {c : String} (hc : c ∈ concepts) (hBlank : trim c.toList ≠ [])
    (hs : before ++ (found ++ after) ∈ sentences text)
    (hFree : StandsFree (trim c.toList) before found after) :
    (IsWordlike (trim c.toList) → Drops concepts text (before ++ (found ++ after))) ∧
      ((matchPhrase sameLetter (trim c.toList) before.getLast? (found ++ after)).isSome = true ↔
        IsWordlike (trim c.toList)) := by
  refine ⟨fun hWordlike => ?_, hFree.isSome_matchPhrase_iff hBlank⟩
  exact drops_of_not_isFree hs (isFree_eq_false_of_mentions hc hBlank (hFree.mentions hWordlike))

def warDraft : List Char := "It is warm. The WAR ended.".toList

theorem avoid?_drops_free_standing_war :
    "war" ∈ ["war"] ∧ trim "war".toList ≠ [] ∧
    "The ".toList ++ ("WAR".toList ++ " ended.".toList) ∈ sentences warDraft ∧
    StandsFree (trim "war".toList) "The ".toList "WAR".toList " ended.".toList ∧
    Drops ["war"] warDraft ("The ".toList ++ ("WAR".toList ++ " ended.".toList)) := by
  have hBlank : trim "war".toList ≠ [] := by decide
  have hs : "The ".toList ++ ("WAR".toList ++ " ended.".toList) ∈ sentences warDraft := by decide
  have hFree : StandsFree (trim "war".toList) "The ".toList "WAR".toList " ended.".toList :=
    ⟨by decide, by decide, by decide⟩
  refine ⟨by decide, hBlank, hs, hFree, ?_⟩
  exact (avoid?_drops_free_standing (by decide) hBlank hs hFree).1 (by decide)

/-- A concept that ends on a sign has no word boundary after it, so its sentence stays. -/
theorem not_drops_sign :
    ¬∀ concepts text (c : String) before found after, c ∈ concepts → trim c.toList ≠ [] →
      before ++ (found ++ after) ∈ sentences text → StandsFree (trim c.toList) before found after →
        Drops concepts text (before ++ (found ++ after)) := by
  intro h
  obtain ⟨e, hAvoid, -⟩ := h ["c++"] "I like c++ a lot. It rains.".toList "c++" "I like ".toList
    "c++".toList " a lot.".toList (by decide) (by decide) (by decide)
    ⟨by decide, by decide, by decide⟩
  have hNone : avoid? ["c++"] "I like c++ a lot. It rains.".toList = none := by decide
  rw [hNone] at hAvoid
  cases hAvoid

end Household.Reply
