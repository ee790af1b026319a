import Household.Proofs.Reply.Mentioning

/-! # Where fillers stand

A filler stands at a place of a text in any ASCII case and with a word boundary on either side, and
takes a comma right after it along. From left to right a text is taken apart into the fillers that
stand in it and the characters between. There is one way to do so, and the search arrives at it.
-/

set_option autoImplicit false

namespace Household.Reply

open Household.Text

variable {before : Option Char} {phrase text found rest found' rest' : List Char}
  {ps ps' : List (Part Unit)}

/-! ## Places -/

inductive FillerAt (before : Option Char) (text : List Char) : List Char → List Char → Prop where
  | bare {filler : String} {found rest : List Char} (hMem : filler ∈ fillers)
      (hPhrase : StandsAt UpToCase filler.toList before text found rest)
      (hEnd : rest.head? ≠ some ',') :
      FillerAt before text found rest
  | comma {filler : String} {found rest : List Char} (hMem : filler ∈ fillers)
      (hPhrase : StandsAt UpToCase filler.toList before text found (',' :: rest)) :
      FillerAt before text (found ++ [',']) rest

theorem map_head?_eq_of_standsAt (h : StandsAt UpToCase phrase before text found rest)
    (hPhrase : phrase ≠ []) : text.head?.map asciiLower = phrase.head?.map asciiLower := by
  obtain ⟨k, later, rfl⟩ := List.exists_cons_of_ne_nil hPhrase
  obtain ⟨c, found, hFirst, -, rfl⟩ := List.forall₂_cons_left_iff.mp h.same
  rw [h.spells]
  exact congrArg some hFirst.symm

theorem filler_ne_nil : ∀ filler ∈ fillers, filler.toList ≠ [] := by
  decide

theorem eq_of_head?_eq : ∀ filler ∈ fillers, ∀ other ∈ fillers,
    filler.toList.head?.map asciiLower = other.toList.head?.map asciiLower → filler = other := by
  decide

-- No two fillers begin with one letter.
theorem found_unique {filler other : String} (hMem : filler ∈ fillers) (hOther : other ∈ fillers)
    (h : StandsAt UpToCase filler.toList before text found rest)
    (h' : StandsAt UpToCase other.toList before text found' rest') :
    found = found' ∧ rest = rest' := by
  have hHead := map_head?_eq_of_standsAt h (filler_ne_nil filler hMem)
  rw [map_head?_eq_of_standsAt h' (filler_ne_nil other hOther)] at hHead
  obtain rfl := eq_of_head?_eq other hOther filler hMem hHead
  apply List.append_inj (h.spells.symm.trans h'.spells)
  rw [← h.length_eq, ← h'.length_eq]

theorem FillerAt.unique (h : FillerAt before text found rest)
    (h' : FillerAt before text found' rest') : found = found' ∧ rest = rest' := by
  cases h with
  | bare hMem hPhrase hEnd =>
    cases h' with
    | bare hMem' hPhrase' _ => exact found_unique hMem hMem' hPhrase hPhrase'
    | comma hMem' hPhrase' =>
      obtain ⟨-, rfl⟩ := found_unique hMem hMem' hPhrase hPhrase'
      exact absurd rfl hEnd
  | comma hMem hPhrase =>
    cases h' with
    | bare hMem' hPhrase' hEnd' =>
      obtain ⟨-, rfl⟩ := found_unique hMem hMem' hPhrase hPhrase'
      exact absurd rfl hEnd'
    | comma hMem' hPhrase' =>
      obtain ⟨rfl, hRest⟩ := found_unique hMem hMem' hPhrase hPhrase'
      exact ⟨rfl, (List.cons.inj hRest).2⟩

theorem fillerAt_of_findFiller {hit : Hit Unit} (h : findFiller before text = some hit) :
    FillerAt before text hit.found hit.rest := by
  obtain ⟨filler, hMem, hFiller⟩ := List.exists_of_findSome?_eq_some h
  split at hFiller
  · rename_i hMatch
    cases hFiller
    exact .comma hMem (matchPhrase_sameLetter_iff.mp hMatch)
  · rename_i found rest hOther hMatch
    cases hFiller
    apply FillerAt.bare hMem (matchPhrase_sameLetter_iff.mp hMatch)
    intro hComma
    obtain ⟨later, hRest⟩ := List.head?_eq_some_iff.mp hComma
    exact hOther later hRest
  · cases hFiller

theorem FillerAt.findFiller_ne_none (h : FillerAt before text found rest) :
    findFiller before text ≠ none := by
  obtain ⟨filler, hMem, found, rest, hPhrase⟩ : ∃ filler ∈ fillers, ∃ found rest,
      StandsAt UpToCase filler.toList before text found rest := by
    cases h with
    | bare hMem hPhrase _ => exact ⟨_, hMem, _, _, hPhrase⟩
    | comma hMem hPhrase => exact ⟨_, hMem, _, _, hPhrase⟩
  intro hNone
  have hFiller := List.findSome?_eq_none_iff.mp hNone filler hMem
  rw [matchPhrase_sameLetter_iff.mpr hPhrase] at hFiller
  split at hFiller
  · cases hFiller
  · cases hFiller
  · rename_i hMatch
    cases hMatch

theorem findFiller_eq_some_iff {hit : Hit Unit} :
    findFiller before text = some hit ↔ FillerAt before text hit.found hit.rest := by
  constructor
  · exact fillerAt_of_findFiller
  · intro h
    obtain ⟨hit', hHit'⟩ := Option.ne_none_iff_exists'.mp h.findFiller_ne_none
    obtain ⟨hFound, hRest⟩ := (fillerAt_of_findFiller hHit').unique h
    obtain ⟨label, found, rest⟩ := hit
    obtain ⟨label', found', rest'⟩ := hit'
    obtain rfl : found' = found := hFound
    obtain rfl : rest' = rest := hRest
    exact hHit'

theorem FillerAt.findFiller_eq (h : FillerAt before text found rest) :
    findFiller before text = some ⟨(), found, rest⟩ :=
  findFiller_eq_some_iff.mpr h

theorem findFiller_eq_none_iff :
    findFiller before text = none ↔ ∀ found rest, ¬FillerAt before text found rest := by
  constructor
  · intro hNone found rest h
    rw [h.findFiller_eq] at hNone
    cases hNone
  · intro h
    apply Option.eq_none_iff_forall_ne_some.mpr
    intro hit hHit
    exact h hit.found hit.rest (findFiller_eq_some_iff.mp hHit)

/-! ## From left to right -/

/-- A text after the character `before` is taken apart. -/
inductive TakenApart : Option Char → List Char → List (Part Unit) → Prop where
  | nil {before : Option Char} : TakenApart before [] []
  | keep {before : Option Char} {c : Char} {text : List Char} {ps : List (Part Unit)}
      (hNone : ∀ found rest, ¬FillerAt before (c :: text) found rest)
      (hLater : TakenApart (some c) text ps) : TakenApart before (c :: text) (.plain c :: ps)
  | drop {before : Option Char} {text found rest : List Char} {ps : List (Part Unit)}
      (hFiller : FillerAt before text found rest)
      (hLater : TakenApart (found.getLast?.or before) rest ps) :
      TakenApart before text (.found () found :: ps)

theorem FillerAt.length_rest_lt (h : FillerAt before text found rest) :
    rest.length < text.length :=
  findFiller_whole.length_rest_lt h.findFiller_eq

/-- A filler ends on a word character or on its comma. -/
def endsFiller (c : Char) : Bool := isWordChar c || c = ','

theorem FillerAt.any_endsFiller (h : FillerAt before text found rest) :
    found.getLast?.any endsFiller = true := by
  cases h with
  | bare hMem hPhrase hEnd =>
    have hSame := forall₂_upToCase_iff.mp hPhrase.same
    have hWord := ((isWordlike_congr hSame).mpr (isWordlike_of_mem_fillers _ hMem)).2
    obtain ⟨c, hLast, hc⟩ := (Option.any_eq_true _ _).mp hWord
    rw [hLast, Option.any_some, endsFiller, hc, Bool.true_or]
  | comma hMem hPhrase =>
    rw [List.getLast?_concat]
    rfl

theorem takenApart_scan {fuel : Nat} (hFuel : text.length ≤ fuel) :
    TakenApart before text (scan findFiller fuel before text) := by
  induction fuel generalizing before text with
  | zero =>
    obtain rfl := List.eq_nil_of_length_eq_zero (Nat.le_zero.mp hFuel)
    exact .nil
  | succ fuel ih =>
    cases text with
    | nil => exact .nil
    | cons c text =>
      rw [scan]
      split
      · rename_i hit hFind
        have hFiller := findFiller_eq_some_iff.mp hFind
        exact .drop hFiller (ih (Nat.le_of_lt_succ (hFiller.length_rest_lt.trans_le hFuel)))
      · rename_i hNone
        exact .keep (findFiller_eq_none_iff.mp hNone) (ih (Nat.le_of_succ_le_succ hFuel))

namespace TakenApart

theorem unique (h : TakenApart before text ps) (h' : TakenApart before text ps') : ps = ps' := by
  induction h generalizing ps' with
  | nil =>
    cases h' with
    | nil => rfl
    | drop hFiller _ => exact absurd hFiller.length_rest_lt (Nat.not_lt_zero _)
  | keep hNone _ ih =>
    cases h' with
    | keep _ hLater => rw [ih hLater]
    | drop hFiller _ => exact absurd hFiller (hNone _ _)
  | drop hFiller _ ih =>
    cases h' with
    | nil => exact absurd hFiller.length_rest_lt (Nat.not_lt_zero _)
    | keep hNone _ => exact absurd hFiller (hNone _ _)
    | drop hFiller' hLater =>
      obtain ⟨rfl, rfl⟩ := hFiller.unique hFiller'
      rw [ih hLater]

theorem exists_fillerAt_of_mem (h : TakenApart before text ps) {label : Unit}
    (hMem : .found label found ∈ ps) : ∃ before text rest, FillerAt before text found rest := by
  induction h with
  | nil => cases hMem
  | keep _ _ ih =>
    cases hMem with
    | tail _ hLater => exact ih hLater
  | drop hFiller _ ih =>
    cases hMem with
    | head => exact ⟨_, _, _, hFiller⟩
    | tail _ hLater => exact ih hLater

end TakenApart

theorem takenApart_iff : TakenApart none text ps ↔ ps = parts findFiller text := by
  have hParts : TakenApart none text (parts findFiller text) := takenApart_scan (Nat.le_refl _)
  constructor
  · exact fun h => h.unique hParts
  · rintro rfl
    exact hParts

end Household.Reply
