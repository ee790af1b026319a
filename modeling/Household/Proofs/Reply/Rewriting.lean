import Household.Proofs.Reply.Passes
import Household.Proofs.Reply.Tables

/-! # The words of a rewritten text

Where whole words are found and something is put in their place, each word of the text that results
is one that was put in, or one at whose start nothing was found.
-/

set_option autoImplicit false

namespace Household.Reply

open Household.Text

variable {α : Type}

/-- Whatever is found begins at the start of a word, and no word goes on after it. -/
structure Finder.Whole (find : Finder α) : Prop where
  spells : find.Spells
  opens : ∀ before text hit, find before text = some hit →
    before.any isWordChar = false ∧ text.head?.any isWordChar = true
  visible : ∀ before text hit, find before text = some hit → hit.found ≠ []
  parted : ∀ before text hit, find before text = some hit → Parted isWordChar hit.found hit.rest

theorem Finder.Whole.length_rest_lt {find : Finder α} (hFind : find.Whole) {before : Option Char}
    {text : List Char} {hit : Hit α} (h : find before text = some hit) :
    hit.rest.length < text.length := by
  have hLength := congrArg List.length (hFind.spells _ _ _ h)
  have hPos := List.length_pos_iff.mpr (hFind.visible _ _ _ h)
  rw [List.length_append] at hLength
  omega

/-- How far the reading of a text has come: `run` is what it has passed of a word. The word as a
whole satisfies `P`. -/
structure Arrived (P : List Char → Prop) (earlier later run : List Char) : Prop where
  word : run.all isWordChar = true
  within : run ≠ [] → earlier.getLast?.any isWordChar = true ∧ P (run ++ later.takeWhile isWordChar)
  outside : run = [] → Parted isWordChar earlier later

namespace Arrived

variable {P : List Char → Prop} {earlier later run w : List Char} {c : Char}

theorem of_parted (h : Parted isWordChar earlier later) : Arrived P earlier later [] where
  word := rfl
  within hNe := absurd rfl hNe
  outside _ := h

/-- Where no word character follows, the word has been passed. -/
theorem of_mem_runs (h : Arrived P earlier later run) (hLater : later.takeWhile isWordChar = [])
    (hw : w ∈ runs isWordChar run) : P w := by
  by_cases hRun : run = []
  · rw [hRun, runs_nil] at hw
    cases hw
  · rw [runs_of_all h.word hRun, List.mem_singleton] at hw
    have hP := (h.within hRun).2
    rwa [hLater, List.append_nil, ← hw] at hP

theorem run_eq_nil (h : Arrived P earlier later run)
    (hBefore : earlier.getLast?.any isWordChar = false) : run = [] := by
  by_contra hNe
  rw [(h.within hNe).1] at hBefore
  cases hBefore

theorem gap (hc : isWordChar c = false) : Arrived P (earlier ++ [c]) later [] :=
  of_parted (.inl (by simp [hc]))

theorem next (h : Arrived P earlier (c :: later) run) (hc : isWordChar c = true)
    (hStart : earlier.getLast?.any isWordChar = false → P ((c :: later).takeWhile isWordChar)) :
    Arrived P (earlier ++ [c]) later (run ++ [c]) where
  word := by simp [List.all_append, h.word, hc]
  within _ := by
    refine ⟨by simp [hc], ?_⟩
    have hWord : (c :: later).takeWhile isWordChar = [c] ++ later.takeWhile isWordChar :=
      List.takeWhile_cons_of_pos hc
    rw [List.append_assoc, ← hWord]
    by_cases hRun : run = []
    · rw [hRun, List.nil_append]
      apply hStart
      rcases h.outside hRun with hBefore | hHead
      · exact hBefore
      · rw [List.head?_cons, Option.any_some, hc] at hHead
        cases hHead
    · exact (h.within hRun).2
  outside hNil := by simp at hNil

end Arrived

section Rebuild

variable {find : Finder α} {r : α → List Char → List Char} {P : List Char → Prop}
  {whole text : List Char}

theorem rebuild_nil (r : α → List Char → List Char) : rebuild r [] = [] := rfl

theorem rebuild_plain (r : α → List Char → List Char) (c : Char) (ps : List (Part α)) :
    rebuild r (.plain c :: ps) = [c] ++ rebuild r ps := rfl

theorem rebuild_found (r : α → List Char → List Char) (a : α) (found : List Char)
    (ps : List (Part α)) : rebuild r (.found a found :: ps) = r a found ++ rebuild r ps := rfl

theorem any_head?_rebuild_scan (hFind : find.Whole) (fuel : Nat) (before : Option Char)
    (h : text.head?.any isWordChar = false) :
    (rebuild r (scan find fuel before text)).head?.any isWordChar = false := by
  cases text with
  | nil => cases fuel <;> rfl
  | cons c rest =>
    cases fuel with
    | zero => exact h
    | succ fuel =>
      rw [scan]
      split
      · rename_i hit hHit
        rw [(hFind.opens _ _ _ hHit).2] at h
        cases h
      · exact h

variable (hFind : find.Whole)
  (hClosed : ∀ before text hit, find before text = some hit →
    r hit.label hit.found = [] ∨ hit.rest.head?.any isWordChar = false)

include hFind hClosed

theorem parted_rebuild_scan {hit : Hit α} {before after : Option Char} (fuel : Nat)
    (h : find before text = some hit) :
    Parted isWordChar (r hit.label hit.found) (rebuild r (scan find fuel after hit.rest)) := by
  rcases hClosed _ _ _ h with hNil | hRest
  · exact .inl (by rw [hNil]; rfl)
  · exact .inr (any_head?_rebuild_scan hFind fuel after hRest)

variable
  (hHit : ∀ before text hit, find before text = some hit →
    ∀ w ∈ runs isWordChar (r hit.label hit.found), P w)
  (hMiss : ∀ earlier later, whole = earlier ++ later → earlier.getLast?.any isWordChar = false →
    find earlier.getLast? later = none → later.takeWhile isWordChar ≠ [] →
      P (later.takeWhile isWordChar))

include hHit hMiss

-- The induction is on the scan, which has read `earlier` and is to read `later`. Of the word that
-- it is in, only the part passed so far stands before the rest of the result.
theorem forall_mem_runs_rebuild_scan {fuel : Nat} {earlier later run : List Char}
    (hWhole : whole = earlier ++ later) (hFuel : later.length ≤ fuel)
    (hArrived : Arrived P earlier later run) :
    ∀ w ∈ runs isWordChar (run ++ rebuild r (scan find fuel earlier.getLast? later)), P w := by
  intro w hw
  induction fuel generalizing earlier later run with
  | zero =>
    obtain rfl := List.eq_nil_of_length_eq_zero (Nat.le_zero.mp hFuel)
    rw [scan_nil, rebuild_nil, List.append_nil] at hw
    exact hArrived.of_mem_runs rfl hw
  | succ fuel ih =>
    cases later with
    | nil =>
      rw [scan_nil, rebuild_nil, List.append_nil] at hw
      exact hArrived.of_mem_runs rfl hw
    | cons c rest =>
      rw [scan] at hw
      split at hw
      · rename_i hit hHere
        have hRun : run = [] := hArrived.run_eq_nil (hFind.opens _ _ _ hHere).1
        have hSplit : whole = earlier ++ hit.found ++ hit.rest := by
          rw [hWhole, hFind.spells _ _ _ hHere, List.append_assoc]
        have hShorter : hit.rest.length ≤ fuel :=
          Nat.le_of_lt_succ ((hFind.length_rest_lt hHere).trans_le hFuel)
        rw [hRun, List.nil_append, rebuild_found,
          runs_append (parted_rebuild_scan hFind hClosed fuel hHere), ← List.getLast?_append] at hw
        rcases List.mem_append.mp hw with hPut | hLater
        · exact hHit _ _ _ hHere w hPut
        · have hAfter := (hFind.parted _ _ _ hHere).append_left (hFind.visible _ _ _ hHere) earlier
          exact ih hSplit hShorter (Arrived.of_parted hAfter) hLater
      · rename_i hNone
        have hSplit : whole = earlier ++ [c] ++ rest := by rw [hWhole, List.append_cons]
        have hShorter : rest.length ≤ fuel := Nat.le_of_succ_le_succ hFuel
        have hLast : some c = (earlier ++ [c]).getLast? := by simp
        rw [rebuild_plain, ← List.append_assoc, hLast] at hw
        by_cases hc : isWordChar c = true
        · refine ih hSplit hShorter (hArrived.next hc fun hBefore => ?_) hw
          exact hMiss earlier (c :: rest) hWhole hBefore hNone (by simp [hc])
        · have hc := Bool.eq_false_iff.mpr hc
          rw [List.append_assoc, List.singleton_append, runs_append_cons hc] at hw
          rcases List.mem_append.mp hw with hRun | hLater
          · exact hArrived.of_mem_runs (by simp [hc]) hRun
          · exact ih hSplit hShorter (Arrived.gap hc) hLater

theorem forall_mem_runs_rebuild : ∀ w ∈ runs isWordChar (rebuild r (parts find whole)), P w :=
  forall_mem_runs_rebuild_scan hFind hClosed hHit hMiss (List.nil_append whole).symm
    (Nat.le_refl _) (Arrived.of_parted (.inl rfl))

end Rebuild

/-! ## Finders of whole words -/

theorem findWord_whole (covers : List Char → Bool) : Finder.Whole (findWord covers) where
  spells := findWord_spells covers
  opens before text hit h := by
    obtain ⟨hBefore, hFound, hNe, -, -⟩ := findWord_eq_some_iff.mp h
    rw [← isWordAt_eq_any]
    exact ⟨hBefore, head?_takeWhile_of_ne_nil (hFound ▸ hNe)⟩
  visible before text hit h := (findWord_eq_some_iff.mp h).2.2.1
  parted before text hit h := by
    obtain ⟨-, -, -, -, hRest⟩ := findWord_eq_some_iff.mp h
    exact .inr (hRest ▸ any_head?_dropWhile isWordChar text)

/-- Word characters stand at the start and the end of a phrase. -/
def IsWordlike (phrase : List Char) : Prop :=
  phrase.head?.any isWordChar = true ∧ phrase.getLast?.any isWordChar = true

instance (phrase : List Char) : Decidable (IsWordlike phrase) :=
  inferInstanceAs (Decidable (_ ∧ _))

/-- What is taken up at a place of a text consists of whole words. -/
structure TakesWords (before : Option Char) (text found rest : List Char) : Prop where
  start : before.any isWordChar = false
  head : text.head?.any isWordChar = true
  visible : found ≠ []
  ends : rest.head?.any isWordChar = false

section Phrases

variable {same : Char → Char → Bool} {phrase found rest text : List Char} {before : Option Char}

theorem head?_of_forall₂ (hSame : ∀ k c, same k c = true → isWordChar k = true → isWordChar c = true)
    (h : List.Forall₂ (fun k c => same k c = true) phrase found)
    (hHead : phrase.head?.any isWordChar = true) : found.head?.any isWordChar = true := by
  cases h with
  | nil => cases hHead
  | cons hFirst _ => exact hSame _ _ hFirst hHead

theorem getLast?_of_forall₂
    (hSame : ∀ k c, same k c = true → isWordChar k = true → isWordChar c = true)
    (h : List.Forall₂ (fun k c => same k c = true) phrase found)
    (hLast : phrase.getLast?.any isWordChar = true) : found.getLast?.any isWordChar = true := by
  rw [List.getLast?_eq_head?_reverse] at hLast ⊢
  exact head?_of_forall₂ hSame (List.forall₂_reverse_iff.mpr h) hLast

theorem takesWords_of_matchPhrase
    (hSame : ∀ k c, same k c = true → isWordChar k = true → isWordChar c = true)
    (hPhrase : IsWordlike phrase) (h : matchPhrase same phrase before text = some (found, rest)) :
    TakesWords before text found rest := by
  obtain ⟨hText, hFound, hStart, hEnd⟩ := matchPhrase_eq_some_iff.mp h
  have hHead := head?_of_forall₂ hSame hFound hPhrase.1
  have hLast := getLast?_of_forall₂ hSame hFound hPhrase.2
  have hNe : found ≠ [] := by
    intro hNil
    rw [hNil] at hHead
    cases hHead
  obtain ⟨c, later, hCons⟩ := List.exists_cons_of_ne_nil hNe
  have hTextHead : text.head? = found.head? := by rw [hText, hCons]; rfl
  have hFoundLast : found.getLast?.or before = found.getLast? := by
    obtain ⟨d, hd⟩ := Option.ne_none_iff_exists'.mp (mt List.getLast?_eq_none_iff.mp hNe)
    rw [hd, Option.some_or]
  rw [Boundary, hTextHead, hHead] at hStart
  rw [Boundary, hFoundLast, hLast] at hEnd
  exact ⟨by simpa using hStart, hTextHead ▸ hHead, hNe, by simpa using hEnd⟩

theorem isWordChar_of_sameLetter (k c : Char) (h : sameLetter k c = true)
    (hk : isWordChar k = true) : isWordChar c = true := by
  have hSame : asciiLower k = asciiLower c := of_decide_eq_true h
  rw [← isWordChar_asciiLower, ← hSame, isWordChar_asciiLower]
  exact hk

theorem isWordChar_of_sameInTable (k c : Char) (h : sameInTable k c = true)
    (hk : isWordChar k = true) : isWordChar c = true := by
  rw [sameInTable] at h
  split at h
  · rename_i hApostrophe
    rw [hApostrophe] at hk
    exact absurd hk (by decide)
  · exact isWordChar_of_sameLetter k c h hk

end Phrases

theorem WordTable.takesWords_of_find {table : WordTable} (hTable : ∀ e ∈ table, IsWordlike e.word)
    {before : Option Char} {text : List Char} {hit : Hit WordEntry}
    (h : table.find before text = some hit) : TakesWords before text hit.found hit.rest := by
  obtain ⟨hMem, hMatch⟩ := exists_of_find h
  exact takesWords_of_matchPhrase isWordChar_of_sameInTable (hTable _ hMem) hMatch

theorem WordTable.find_whole {table : WordTable} (hTable : ∀ e ∈ table, IsWordlike e.word) :
    Finder.Whole table.find where
  spells := find_spells table
  opens _ _ _ h := ⟨(takesWords_of_find hTable h).start, (takesWords_of_find hTable h).head⟩
  visible _ _ _ h := (takesWords_of_find hTable h).visible
  parted _ _ _ h := .inr (takesWords_of_find hTable h).ends

theorem isWordlike_of_mem_fillers : ∀ filler ∈ fillers, IsWordlike filler.toList := by
  decide

theorem exists_takesWords_of_findFiller {before : Option Char} {text : List Char} {hit : Hit Unit}
    (h : findFiller before text = some hit) :
    ∃ found rest, TakesWords before text found rest ∧
      (hit.found = found ∧ hit.rest = rest ∨ hit.found = found ++ [',']) := by
  obtain ⟨filler, hFiller, found, rest, hMatch, hHit⟩ := exists_of_findFiller h
  exact ⟨found, rest, takesWords_of_matchPhrase isWordChar_of_sameLetter
    (isWordlike_of_mem_fillers filler hFiller) hMatch, hHit.imp_right And.left⟩

theorem findFiller_whole : Finder.Whole findFiller where
  spells := findFiller_spells
  opens before text hit h := by
    obtain ⟨found, rest, hTakes, -⟩ := exists_takesWords_of_findFiller h
    exact ⟨hTakes.start, hTakes.head⟩
  visible before text hit h := by
    obtain ⟨found, rest, hTakes, hHit⟩ := exists_takesWords_of_findFiller h
    rcases hHit with ⟨hFound, -⟩ | hFound
    · rw [hFound]
      exact hTakes.visible
    · simp [hFound]
  parted before text hit h := by
    obtain ⟨found, rest, hTakes, hHit⟩ := exists_takesWords_of_findFiller h
    rcases hHit with ⟨-, hRest⟩ | hFound
    · exact .inr (hRest ▸ hTakes.ends)
    · refine .inl ?_
      rw [hFound, List.getLast?_append]
      rfl

end Household.Reply
