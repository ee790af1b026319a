import Mathlib.Data.List.Forall2
import Household.Proofs.Text.Runs
import Household.Reply.Style

/-! # Texts taken apart

The parts of a text spell the text. Where nothing is found nothing is replaced, and without a word
character nothing is found, since whatever is looked for has a word boundary at its start. What is
put in the place of whole words leaves the words around it as they are.
-/

set_option autoImplicit false

namespace Household.Reply

open Household.Text

variable {α : Type}

theorem isWordAt_eq_any (c : Option Char) : isWordAt c = c.any isWordChar := by
  cases c <;> rfl

theorem isBoundary_iff_of_isWordAt {before after : Option Char} (h : isWordAt after = true) :
    isBoundary before after = true ↔ isWordAt before = false := by
  simp [isBoundary, h]

/-- A word begins or ends between two characters, either of which may be missing. -/
def Boundary (before after : Option Char) : Prop := before.any isWordChar ≠ after.any isWordChar

instance (before after : Option Char) : Decidable (Boundary before after) :=
  inferInstanceAs (Decidable (_ ≠ _))

theorem isBoundary_iff {before after : Option Char} :
    isBoundary before after = true ↔ Boundary before after := by
  rw [isBoundary, isWordAt_eq_any, isWordAt_eq_any, bne_iff_ne, Boundary]

/-! ## Phrases -/

section Phrases

/-- A phrase stands at the start of a text, after the character `before`: its characters are there
up to `same`, with a word boundary on either side. -/
structure StandsAt (same : Char → Char → Prop) (phrase : List Char) (before : Option Char)
    (text found rest : List Char) : Prop where
  spells : text = found ++ rest
  same : List.Forall₂ same phrase found
  opens : Boundary before text.head?
  closes : Boundary (found.getLast?.or before) rest.head?

def UpToCase (k c : Char) : Prop := asciiLower k = asciiLower c

variable {same : Char → Char → Bool} {phrase text found rest : List Char} {before : Option Char}

theorem StandsAt.length_eq {P : Char → Char → Prop} (h : StandsAt P phrase before text found rest) :
    phrase.length = found.length :=
  h.same.length_eq

theorem StandsAt.imp {P Q : Char → Char → Prop} (h : StandsAt P phrase before text found rest)
    (hImp : ∀ k ∈ phrase, ∀ c, P k c → Q k c) : StandsAt Q phrase before text found rest where
  spells := h.spells
  same := by
    obtain ⟨hLength, hPairs⟩ := List.forall₂_iff_zip.mp h.same
    exact List.forall₂_iff_zip.mpr
      ⟨hLength, fun hMem => hImp _ (List.of_mem_zip hMem).1 _ (hPairs hMem)⟩
  opens := h.opens
  closes := h.closes

theorem standsAt_congr {P Q : Char → Char → Prop} (h : ∀ k ∈ phrase, ∀ c, P k c ↔ Q k c) :
    StandsAt P phrase before text found rest ↔ StandsAt Q phrase before text found rest :=
  ⟨fun hStands => hStands.imp fun k hk c => (h k hk c).mp,
    fun hStands => hStands.imp fun k hk c => (h k hk c).mpr⟩

theorem matchChars_eq_some_iff :
    matchChars same phrase text = some (found, rest) ↔
      text = found ++ rest ∧ List.Forall₂ (fun k c => same k c = true) phrase found := by
  induction phrase generalizing text found rest with
  | nil =>
    simp only [matchChars, Option.some.injEq, Prod.mk.injEq, List.forall₂_nil_left_iff]
    constructor
    · rintro ⟨rfl, rfl⟩
      exact ⟨rfl, rfl⟩
    · rintro ⟨rfl, rfl⟩
      exact ⟨rfl, rfl⟩
  | cons k phrase ih =>
    cases text with
    | nil =>
      simp only [matchChars, List.forall₂_cons_left_iff]
      constructor
      · intro h
        cases h
      · rintro ⟨hNil, c, later, -, -, rfl⟩
        cases hNil
    | cons c text =>
      simp only [matchChars, List.forall₂_cons_left_iff, Option.ite_none_right_eq_some,
        Option.map_eq_some_iff, Prod.exists, Prod.mk.injEq, ih]
      constructor
      · rintro ⟨hc, later, after, ⟨rfl, hLater⟩, rfl, rfl⟩
        exact ⟨rfl, c, later, hc, hLater, rfl⟩
      · rintro ⟨hText, d, later, hd, hLater, rfl⟩
        obtain ⟨rfl, rfl⟩ := List.cons.inj hText
        exact ⟨hd, later, rest, ⟨rfl, hLater⟩, rfl, rfl⟩

theorem matchPhrase_eq_some_iff :
    matchPhrase same phrase before text = some (found, rest) ↔
      StandsAt (fun k c => same k c = true) phrase before text found rest := by
  rw [matchPhrase]
  cases h : matchChars same phrase text with
  | none =>
    constructor
    · intro hNone
      cases hNone
    · rintro ⟨hText, hSame, -⟩
      rw [matchChars_eq_some_iff.mpr ⟨hText, hSame⟩] at h
      cases h
  | some m =>
    obtain ⟨start, after⟩ := m
    dsimp only
    constructor
    · intro hFound
      split at hFound
      · rename_i hBounds
        cases hFound
        obtain ⟨hText, hSame⟩ := matchChars_eq_some_iff.mp h
        obtain ⟨hOpens, hCloses⟩ := Bool.and_eq_true_iff.mp hBounds
        exact ⟨hText, hSame, isBoundary_iff.mp hOpens, isBoundary_iff.mp hCloses⟩
      · cases hFound
    · rintro ⟨hText, hSame, hOpens, hCloses⟩
      rw [matchChars_eq_some_iff.mpr ⟨hText, hSame⟩] at h
      cases h
      rw [isBoundary_iff.mpr hOpens, isBoundary_iff.mpr hCloses]
      rfl

theorem matchPhrase_sameLetter_iff :
    matchPhrase sameLetter phrase before text = some (found, rest) ↔
      StandsAt UpToCase phrase before text found rest := by
  rw [matchPhrase_eq_some_iff]
  exact standsAt_congr fun _ _ _ => decide_eq_true_iff

end Phrases

/-! ## Finders -/

namespace Finder

/-- Whatever is found is what the text begins with. -/
def Spells (find : Finder α) : Prop :=
  ∀ before text hit, find before text = some hit → text = hit.found ++ hit.rest

/-- Whatever is found has a word boundary at its start. -/
def NeedsBoundary (find : Finder α) : Prop :=
  ∀ before text hit, find before text = some hit → isBoundary before text.head? = true

end Finder

theorem findWord_eq_some_iff {covers : List Char → Bool} {before : Option Char} {text : List Char}
    {hit : Hit Unit} :
    findWord covers before text = some hit ↔
      isWordAt before = false ∧ hit.found = text.takeWhile isWordChar ∧ hit.found ≠ [] ∧
        covers hit.found = true ∧ hit.rest = text.dropWhile isWordChar := by
  obtain ⟨label, found, rest⟩ := hit
  have hDrop : text.drop (text.takeWhile isWordChar).length = text.dropWhile isWordChar := by
    have hSplit := List.takeWhile_append_dropWhile (p := isWordChar) (l := text)
    exact (congrArg (List.drop _) hSplit.symm).trans List.drop_left
  rw [findWord]
  dsimp only
  split
  · rename_i h
    constructor
    · intro hNone
      cases hNone
    · rintro ⟨hBefore, rfl, hNe, hCovers, -⟩
      simp [hBefore, hNe, hCovers] at h
  · rename_i h
    simp only [Bool.or_eq_true, List.isEmpty_iff, Bool.not_eq_true', not_or, Bool.not_eq_true,
      Bool.not_eq_false] at h
    obtain ⟨⟨hBefore, hNe⟩, hCovers⟩ := h
    rw [hDrop]
    constructor
    · intro hHit
      cases hHit
      exact ⟨hBefore, rfl, hNe, hCovers, rfl⟩
    · rintro ⟨-, rfl, -, -, rfl⟩
      rfl

theorem WordTable.exists_of_find {table : WordTable} {before : Option Char} {text : List Char}
    {hit : Hit WordEntry} (h : table.find before text = some hit) :
    hit.label ∈ table ∧
      matchPhrase sameInTable hit.label.word before text = some (hit.found, hit.rest) := by
  obtain ⟨entry, hMem, hEntry⟩ := List.exists_of_findSome?_eq_some h
  obtain ⟨⟨found, rest⟩, hMatch, rfl⟩ := Option.map_eq_some_iff.mp hEntry
  exact ⟨hMem, hMatch⟩

theorem exists_of_findFiller {before : Option Char} {text : List Char} {hit : Hit Unit}
    (h : findFiller before text = some hit) :
    ∃ filler ∈ fillers, ∃ found rest,
      matchPhrase sameLetter filler.toList before text = some (found, rest) ∧
        (hit.found = found ∧ hit.rest = rest ∨
          hit.found = found ++ [','] ∧ rest = ',' :: hit.rest) := by
  obtain ⟨filler, hMem, hFiller⟩ := List.exists_of_findSome?_eq_some h
  refine ⟨filler, hMem, ?_⟩
  split at hFiller
  · rename_i found rest hMatch
    cases hFiller
    exact ⟨found, ',' :: rest, hMatch, .inr ⟨rfl, rfl⟩⟩
  · rename_i found rest _ hMatch
    cases hFiller
    exact ⟨found, rest, hMatch, .inl ⟨rfl, rfl⟩⟩
  · cases hFiller

theorem findWord_spells (covers : List Char → Bool) : Finder.Spells (findWord covers) := by
  intro before text hit h
  obtain ⟨-, hFound, -, -, hRest⟩ := findWord_eq_some_iff.mp h
  rw [hFound, hRest, List.takeWhile_append_dropWhile]

theorem WordTable.find_spells (table : WordTable) : Finder.Spells table.find := by
  intro before text hit h
  exact (matchPhrase_eq_some_iff.mp (exists_of_find h).2).spells

theorem findFiller_spells : Finder.Spells findFiller := by
  intro before text hit h
  obtain ⟨_, -, found, rest, hMatch, hHit⟩ := exists_of_findFiller h
  rw [(matchPhrase_eq_some_iff.mp hMatch).spells]
  rcases hHit with ⟨hFound, hRest⟩ | ⟨hFound, hRest⟩
  · rw [hFound, hRest]
  · rw [hFound, hRest, List.append_assoc, List.singleton_append]

theorem head?_takeWhile_of_ne_nil {p : Char → Bool} {s : List Char} (h : s.takeWhile p ≠ []) :
    s.head?.any p = true := by
  cases s with
  | nil => exact absurd rfl h
  | cons c rest =>
    by_cases hc : p c = true
    · simpa using hc
    · exact absurd (List.takeWhile_cons_of_neg hc) h

theorem findWord_needsBoundary (covers : List Char → Bool) :
    Finder.NeedsBoundary (findWord covers) := by
  intro before text hit h
  obtain ⟨hBefore, hFound, hNe, -, -⟩ := findWord_eq_some_iff.mp h
  have hHead := head?_takeWhile_of_ne_nil (hFound ▸ hNe)
  rw [← isWordAt_eq_any] at hHead
  exact (isBoundary_iff_of_isWordAt hHead).mpr hBefore

theorem WordTable.find_needsBoundary (table : WordTable) : Finder.NeedsBoundary table.find := by
  intro before text hit h
  exact isBoundary_iff.mpr (matchPhrase_eq_some_iff.mp (exists_of_find h).2).opens

theorem findFiller_needsBoundary : Finder.NeedsBoundary findFiller := by
  intro before text hit h
  obtain ⟨_, -, found, rest, hMatch, -⟩ := exists_of_findFiller h
  exact isBoundary_iff.mpr (matchPhrase_eq_some_iff.mp hMatch).opens

/-! ## Scans -/

/-- The characters that a part takes up. -/
def Part.source : Part α → List Char
  | .plain c => [c]
  | .found _ text => text

theorem scan_nil (find : Finder α) (fuel : Nat) (before : Option Char) :
    scan find fuel before [] = [] := by
  cases fuel <;> rfl

theorem flatMap_source_scan {find : Finder α} (hFind : find.Spells) (fuel : Nat)
    (before : Option Char) (text : List Char) :
    (scan find fuel before text).flatMap Part.source = text := by
  induction fuel generalizing before text with
  | zero =>
    cases text with
    | nil => rfl
    | cons c rest => simp [scan, List.flatMap_map, Part.source]
  | succ fuel ih =>
    cases text with
    | nil => rfl
    | cons c rest =>
      rw [scan]
      split
      · rename_i hit hHit
        rw [List.flatMap_cons, ih, hFind _ _ _ hHit]
        rfl
      · rw [List.flatMap_cons, ih]
        rfl

theorem flatMap_source_parts {find : Finder α} (hFind : find.Spells) (text : List Char) :
    (parts find text).flatMap Part.source = text :=
  flatMap_source_scan hFind _ _ _

theorem exists_of_mem_hits_scan {find : Finder α} {a : α} {found text : List Char}
    {fuel : Nat} {before : Option Char} (h : (a, found) ∈ hits (scan find fuel before text)) :
    ∃ earlier later rest, find earlier later = some ⟨a, found, rest⟩ := by
  induction fuel generalizing before text with
  | zero =>
    cases text with
    | nil => cases h
    | cons c rest => simp [scan, hits, List.filterMap_map] at h
  | succ fuel ih =>
    cases text with
    | nil => cases h
    | cons c rest =>
      rw [scan] at h
      split at h
      · rename_i hit hHit
        rcases List.mem_cons.mp h with hFirst | hLater
        · cases hFirst
          exact ⟨before, c :: rest, hit.rest, hHit⟩
        · exact ih hLater
      · exact ih h

theorem hits_scan_eq_nil {find : Finder α} (hFind : find.NeedsBoundary) {text : List Char}
    (hText : ∀ c ∈ text, isWordChar c = false) (fuel : Nat) {before : Option Char}
    (hBefore : isWordAt before = false) : hits (scan find fuel before text) = [] := by
  induction fuel generalizing before text with
  | zero =>
    cases text with
    | nil => rfl
    | cons c rest => simp [scan, hits, List.filterMap_map]
  | succ fuel ih =>
    cases text with
    | nil => rfl
    | cons c rest =>
      have hc := hText c List.mem_cons_self
      rw [scan]
      split
      · rename_i hit hHit
        have hAfter : isWordAt (c :: rest).head? = false := hc
        have hBoundary := hFind _ _ _ hHit
        rw [isBoundary, hBefore, hAfter] at hBoundary
        cases hBoundary
      · exact ih (fun d hd => hText d (List.mem_cons_of_mem _ hd)) hc

/-- A text without word characters has no place where anything is found. -/
theorem hits_parts_eq_nil {find : Finder α} (hFind : find.NeedsBoundary) {text : List Char}
    (hText : ∀ c ∈ text, isWordChar c = false) : hits (parts find text) = [] :=
  hits_scan_eq_nil hFind hText _ rfl

theorem getLast?_cons_or (c : Char) (front : List Char) (before : Option Char) :
    (c :: front).getLast?.or before = front.getLast?.or (some c) := by
  rw [List.getLast?_cons, Option.some_or]
  cases front.getLast? <;> rfl

-- A scan that finds nothing has been at each place of the text.
theorem hits_scan_eq_nil_iff {find : Finder α} {text : List Char} {before : Option Char}
    {fuel : Nat} (hFuel : text.length ≤ fuel) :
    hits (scan find fuel before text) = [] ↔ ∀ front back, text = front ++ back → back ≠ [] →
      find (front.getLast?.or before) back = none := by
  induction fuel generalizing before text with
  | zero =>
    obtain rfl := List.eq_nil_of_length_eq_zero (Nat.le_zero.mp hFuel)
    rw [scan_nil]
    refine ⟨fun _ front back hText hBack => ?_, fun _ => rfl⟩
    exact absurd (List.append_eq_nil_iff.mp hText.symm).2 hBack
  | succ fuel ih =>
    cases text with
    | nil =>
      refine ⟨fun _ front back hText hBack => ?_, fun _ => rfl⟩
      exact absurd (List.append_eq_nil_iff.mp hText.symm).2 hBack
    | cons c text =>
      have hLater := @ih text (some c) (Nat.le_of_succ_le_succ hFuel)
      rw [scan]
      split
      · rename_i hit hFind
        refine ⟨fun hNil => (nomatch hNil), fun h => ?_⟩
        have hNone := h [] (c :: text) rfl (List.cons_ne_nil _ _)
        rw [List.getLast?_nil, Option.none_or, hFind] at hNone
        cases hNone
      · rename_i hNone
        refine hLater.trans ⟨fun h front back hText hBack => ?_, fun h front back hText hBack => ?_⟩
        · cases front with
          | nil =>
            obtain rfl : c :: text = back := hText
            exact hNone
          | cons d front =>
            obtain ⟨rfl, hRest⟩ := List.cons.inj hText
            rw [getLast?_cons_or]
            exact h front back hRest hBack
        · rw [← getLast?_cons_or c front before]
          exact h (c :: front) back (congrArg (c :: ·) hText) hBack

theorem hits_parts_eq_nil_iff {find : Finder α} {text : List Char} :
    hits (parts find text) = [] ↔ ∀ front back, text = front ++ back → back ≠ [] →
      find front.getLast? back = none := by
  rw [parts, hits_scan_eq_nil_iff (Nat.le_refl _)]
  simp only [Option.or_none]

end Household.Reply
