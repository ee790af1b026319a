import Household.Proofs.Reply.Rewriting

/-! # Phrases that reach across what is put in

What is put into a text could complete a phrase together with the characters around it. Of the text
after it only is known that it does not go on with a word. Where no phrase begins within what is put
in, and no rest of one can be read from its start on, a phrase stands in the new text only where it
has stood in the old one.
-/

set_option autoImplicit false

namespace Household.Reply

open Household.Text

variable {phrase put text rest : List Char} {before : Option Char} {k c d : Char}

/-! ## Phrases at the start of a text -/

/-- The phrase is spelled from the start of the text on, and no word goes on after it. -/
def leads : List Char → List Char → Bool
  | [], text => !isWordAt text.head?
  | _ :: _, [] => false
  | k :: phrase, c :: text => sameInTable k c && leads phrase text

theorem leads_iff :
    leads phrase text = true ↔ ∃ found rest, text = found ++ rest ∧
      List.Forall₂ (fun k c => sameInTable k c = true) phrase found ∧
        isWordAt rest.head? = false := by
  induction phrase generalizing text with
  | nil => simp [leads]
  | cons k phrase ih =>
    cases text with
    | nil => simp [leads, List.forall₂_cons_left_iff]
    | cons c text =>
      rw [leads, Bool.and_eq_true, ih]
      constructor
      · rintro ⟨hc, found, rest, rfl, hFound, hRest⟩
        exact ⟨c :: found, rest, rfl, .cons hc hFound, hRest⟩
      · rintro ⟨found, rest, hText, hFound, hRest⟩
        cases hFound with
        | cons hc hFound =>
          obtain ⟨rfl, hLater⟩ := List.cons.inj hText
          exact ⟨hc, _, rest, hLater, hFound, hRest⟩

theorem isSome_matchPhrase_iff_leads (hPhrase : IsWordlike phrase) :
    (matchPhrase sameInTable phrase before text).isSome = true ↔
      isWordAt before = false ∧ leads phrase text = true := by
  rw [Option.isSome_iff_exists, Prod.exists, leads_iff]
  constructor
  · rintro ⟨found, rest, hMatch⟩
    have hTakes := takesWords_of_matchPhrase isWordChar_of_sameInTable hPhrase hMatch
    obtain ⟨hText, hFound, -⟩ := matchPhrase_eq_some_iff.mp hMatch
    rw [isWordAt_eq_any]
    exact ⟨hTakes.start, found, rest, hText, hFound, isWordAt_eq_any _ ▸ hTakes.ends⟩
  · rintro ⟨hBefore, found, rest, rfl, hFound, hRest⟩
    have hHead := head?_of_forall₂ isWordChar_of_sameInTable hFound hPhrase.1
    have hLast := getLast?_of_forall₂ isWordChar_of_sameInTable hFound hPhrase.2
    obtain ⟨c, hc, hcWord⟩ := (Option.any_eq_true _ _).mp hHead
    obtain ⟨d, hd, hdWord⟩ := (Option.any_eq_true _ _).mp hLast
    have hcAt : isWordAt (some c) = true := hcWord
    have hdAt : isWordAt (some d) = true := hdWord
    have hOpens : isBoundary before (found ++ rest).head? = true := by
      rw [List.head?_append, hc, Option.some_or]
      exact (isBoundary_iff_of_isWordAt hcAt).mpr hBefore
    have hCloses : isBoundary (found.getLast?.or before) rest.head? = true := by
      rw [hd, Option.some_or, isBoundary, hdAt, hRest]
      rfl
    exact ⟨found, rest, matchPhrase_eq_some_iff.mpr
      ⟨rfl, hFound, isBoundary_iff.mp hOpens, isBoundary_iff.mp hCloses⟩⟩

/-! ## Phrases and what is put in -/

/-- The same for all characters that stand for each other in a table. -/
def letterCode (c : Char) : Nat := (asciiLower (straighten c)).toNat

theorem letterCode_congr (h : asciiLower c = asciiLower d) : letterCode c = letterCode d := by
  have hCurly : c = '’' ↔ d = '’' := by
    rw [← asciiLower_eq_iff (by decide), h, asciiLower_eq_iff (by decide)]
  rw [letterCode, letterCode, straighten, straighten]
  by_cases hc : c = '’'
  · rw [if_pos hc, if_pos (hCurly.mp hc)]
  · rw [if_neg hc, if_neg (mt hCurly.mpr hc), h]

theorem letterCode_of_sameInTable (h : sameInTable k c = true) : letterCode k = letterCode c := by
  rw [sameInTable] at h
  split at h
  · rename_i hApostrophe
    rw [letterCode, letterCode, of_decide_eq_true h, hApostrophe]
    rfl
  · exact letterCode_congr (of_decide_eq_true h)

/-- The phrase could be read from the start of what is put in on, in some text that does not go on
with a word after it. -/
def mayLead : List Char → List Char → Bool
  | [], [] => true
  | [], c :: _ => !isWordChar c
  | k :: _, [] => !isWordChar k
  | k :: phrase, c :: put => (letterCode k).beq (letterCode c) && mayLead phrase put

theorem mayLead_of_leads (hRest : isWordAt rest.head? = false)
    (h : leads phrase (put ++ rest) = true) : mayLead phrase put = true := by
  induction phrase generalizing put with
  | nil =>
    cases put with
    | nil => rfl
    | cons c put => exact h
  | cons k phrase ih =>
    cases put with
    | nil =>
      cases rest with
      | nil => cases h
      | cons c rest =>
        -- The text does not go on with a word, and `c` is where it goes on.
        rw [List.nil_append, leads, Bool.and_eq_true] at h
        have hc : isWordChar c = false := hRest
        rw [mayLead, Bool.not_eq_true', Bool.eq_false_iff]
        intro hk
        rw [isWordChar_of_sameInTable k c h.1 hk] at hc
        cases hc
    | cons c put =>
      rw [List.cons_append, leads, Bool.and_eq_true] at h
      rw [mayLead, Bool.and_eq_true, Nat.beq_eq]
      exact ⟨letterCode_of_sameInTable h.1, ih h.2⟩

/-- The phrase could begin within what is put in, where no word goes on. -/
def mayBegin (phrase : List Char) : Option Char → List Char → Bool
  | _, [] => false
  | before, c :: put =>
    (!isWordAt before && mayLead phrase (c :: put)) || mayBegin phrase (some c) put

/-- The phrase, or a rest of it, could be read from the start of what is put in on. -/
def mayGoOn : List Char → List Char → Bool
  | [], _ => false
  | k :: phrase, put => mayLead (k :: phrase) put || mayGoOn phrase put

/-- The phrase can neither begin within what is put in nor reach into it from before. -/
def apart (phrase put : List Char) : Bool :=
  !mayBegin phrase none put && !mayGoOn phrase.tail put

example : apart "shut up".toList "be quiet".toList ∧ ¬apart "shut up".toList "shut".toList := by
  decide

theorem apart_iff :
    apart phrase put = true ↔ mayBegin phrase none put = false ∧ mayGoOn phrase.tail put = false := by
  rw [apart, Bool.and_eq_true, Bool.not_eq_true', Bool.not_eq_true']

theorem mayLead_congr {put' : List Char} (h : sameLetters put put' = true) :
    mayLead phrase put = mayLead phrase put' := by
  rw [sameLetters_iff] at h
  induction phrase generalizing put put' with
  | nil =>
    cases put with
    | nil =>
      obtain rfl := List.map_eq_nil_iff.mp h.symm
      rfl
    | cons c put =>
      obtain ⟨d, put', rfl, hc, -⟩ := List.map_eq_cons_iff.mp h.symm
      rw [mayLead, mayLead, isWordChar_congr hc]
  | cons k phrase ih =>
    cases put with
    | nil =>
      obtain rfl := List.map_eq_nil_iff.mp h.symm
      rfl
    | cons c put =>
      obtain ⟨d, put', rfl, hc, hPut⟩ := List.map_eq_cons_iff.mp h.symm
      rw [mayLead, mayLead, letterCode_congr hc, ih hPut]

theorem mayBegin_congr {put' : List Char} {before' : Option Char}
    (hBefore : isWordAt before = isWordAt before') (h : sameLetters put put' = true) :
    mayBegin phrase before put = mayBegin phrase before' put' := by
  induction put generalizing put' before before' with
  | nil =>
    obtain rfl := List.map_eq_nil_iff.mp (sameLetters_iff.mp h).symm
    rfl
  | cons c put ih =>
    obtain ⟨d, rest, rfl, hc, hPut⟩ := List.map_eq_cons_iff.mp (sameLetters_iff.mp h).symm
    have hWord : isWordAt (some c) = isWordAt (some d) := isWordChar_congr hc.symm
    rw [mayBegin, mayBegin, hBefore, mayLead_congr h, ih hWord (sameLetters_iff.mpr hPut.symm)]

theorem mayGoOn_congr {put' : List Char} (h : sameLetters put put' = true) :
    mayGoOn phrase put = mayGoOn phrase put' := by
  induction phrase with
  | nil => rfl
  | cons k phrase ih => rw [mayGoOn, mayGoOn, mayLead_congr h, ih]

theorem apart_congr {put' : List Char} (h : sameLetters put put' = true) :
    apart phrase put = apart phrase put' := by
  rw [apart, apart, mayBegin_congr rfl h, mayGoOn_congr h]

/-! ## Texts without a phrase -/

/-- The phrase stands nowhere in the text, which follows the character `before`. -/
def Absent (phrase : List Char) (before : Option Char) (text : List Char) : Prop :=
  ∀ front back, text = front ++ back → isWordAt (front.getLast?.or before) = false →
    leads phrase back = false

namespace Absent

theorem nil (hPhrase : phrase ≠ []) : Absent phrase before [] := by
  intro front back hText _
  obtain rfl := (List.append_eq_nil_iff.mp hText.symm).2
  obtain ⟨k, rest, rfl⟩ := List.exists_cons_of_ne_nil hPhrase
  rfl

theorem cons (hHere : isWordAt before = false → leads phrase (c :: text) = false)
    (hLater : Absent phrase (some c) text) : Absent phrase before (c :: text) := by
  intro front back hText hOpen
  cases front with
  | nil =>
    obtain rfl : c :: text = back := hText
    exact hHere hOpen
  | cons d front =>
    obtain ⟨rfl, hRest⟩ := List.cons.inj hText
    rw [getLast?_cons_or] at hOpen
    exact hLater front back hRest hOpen

-- Where a phrase may begin within what is put in is known after the character `assumed` only.
theorem put_append {assumed : Option Char} (hBegin : mayBegin phrase assumed put = false)
    (hAssumed : isWordAt before = false → isWordAt assumed = false)
    (hRest : isWordAt rest.head? = false) (h : Absent phrase (put.getLast?.or before) rest) :
    Absent phrase before (put ++ rest) := by
  induction put generalizing before assumed with
  | nil => exact h
  | cons c put ih =>
    rw [mayBegin, Bool.or_eq_false_iff] at hBegin
    rw [getLast?_cons_or] at h
    refine cons (fun hOpen => ?_) (ih hBegin.2 id h)
    by_contra hLeads
    rw [Bool.not_eq_false] at hLeads
    have hMay : mayLead phrase (c :: put) = true := mayLead_of_leads hRest hLeads
    rw [hAssumed hOpen, hMay] at hBegin
    cases hBegin.1

end Absent

/-! ## What stands in the new text -/

theorem isWordAt_getLast?_or {later : List Char} (hSame : sameInTable k c = true)
    (h : isWordAt ((k :: later).getLast?.or before) = true) :
    isWordAt (later.getLast?.or (some c)) = true := by
  rw [getLast?_cons_or] at h
  cases hEnd : later.getLast? with
  | none =>
    rw [hEnd] at h
    exact isWordChar_of_sameInTable k c hSame h
  | some d =>
    rw [hEnd] at h
    exact h

section Rebuild

variable {α : Type} {find : Finder α} {r : α → List Char → List Char} (hFind : find.Whole)
  (hClosed : ∀ before text hit, find before text = some hit → isWordAt hit.rest.head? = false)

include hFind hClosed

theorem isWordAt_head?_rebuild_rest {hit : Hit α} (h : find before text = some hit) (fuel : Nat)
    (after : Option Char) : isWordAt (rebuild r (scan find fuel after hit.rest)).head? = false := by
  rw [isWordAt_eq_any]
  exact any_head?_rebuild_scan hFind fuel after (isWordAt_eq_any _ ▸ hClosed _ _ _ h)

-- The phrase has been read up to `before`, and its rest is read from the new text. It cannot reach
-- what is put in next: there a word begins, so that the phrase does not end before it, and no rest
-- of it can be read there.
theorem leads_of_leads_rebuild {fuel : Nat} {later : List Char}
    (hLast : isWordAt (later.getLast?.or before) = true)
    (hGoOn : ∀ before text hit, find before text = some hit →
      mayGoOn later (r hit.label hit.found) = false)
    (hFuel : text.length ≤ fuel)
    (h : leads later (rebuild r (scan find fuel before text)) = true) :
    leads later text = true := by
  induction fuel generalizing before text later with
  | zero =>
    obtain rfl := List.eq_nil_of_length_eq_zero (Nat.le_zero.mp hFuel)
    exact h
  | succ fuel ih =>
    cases text with
    | nil => exact h
    | cons c text =>
      rw [scan] at h
      split at h
      · rename_i hit hHere
        rw [rebuild_found] at h
        have hAfter := isWordAt_head?_rebuild_rest hFind hClosed hHere fuel
          (hit.found.getLast?.or before) (r := r)
        cases later with
        | nil =>
          have hStart := (hFind.opens _ _ _ hHere).1
          rw [← isWordAt_eq_any] at hStart
          rw [List.getLast?_nil, Option.none_or, hStart] at hLast
          cases hLast
        | cons k later =>
          have hNot := hGoOn _ _ _ hHere
          rw [mayGoOn, mayLead_of_leads hAfter h] at hNot
          cases hNot
      · rw [rebuild_plain, List.singleton_append] at h
        cases later with
        | nil => exact h
        | cons k later =>
          rw [leads, Bool.and_eq_true] at h ⊢
          refine ⟨h.1, ih (isWordAt_getLast?_or h.1 hLast) ?_ (Nat.le_of_succ_le_succ hFuel) h.2⟩
          intro _ _ hit hHere
          exact (Bool.or_eq_false_iff.mp (hGoOn _ _ hit hHere)).2

/-- A phrase that stands at a kept character of the new text has stood there in the old one. -/
theorem leads_of_leads_kept (hPhrase : IsWordlike phrase)
    (hGoOn : ∀ before text hit, find before text = some hit →
      mayGoOn phrase.tail (r hit.label hit.found) = false)
    {fuel : Nat} (hFuel : text.length ≤ fuel)
    (h : leads phrase (c :: rebuild r (scan find fuel (some c) text)) = true) :
    isWordAt (some c) = true ∧ leads phrase (c :: text) = true := by
  cases phrase with
  | nil => cases hPhrase.1
  | cons k later =>
    obtain ⟨d, hd, hdWord⟩ := (Option.any_eq_true _ _).mp hPhrase.2
    have hEnd : isWordAt ((k :: later).getLast?.or none) = true := by
      rw [hd]
      exact hdWord
    rw [leads, Bool.and_eq_true] at h
    rw [leads, h.1, Bool.true_and]
    refine ⟨isWordChar_of_sameInTable k c h.1 hPhrase.1, ?_⟩
    exact leads_of_leads_rebuild hFind hClosed (isWordAt_getLast?_or h.1 hEnd) hGoOn hFuel h.2

-- The induction is on the scan. The new text goes on after `after` where the old one goes on after
-- `before`. The two differ only where something has just been put in, and no word begins there.
theorem absent_rebuild_scan (hPhrase : IsWordlike phrase)
    (hApart : ∀ before text hit, find before text = some hit →
      apart phrase (r hit.label hit.found) = true)
    {fuel : Nat} {after : Option Char} (hFuel : text.length ≤ fuel)
    (hAfter : isWordAt text.head? = true → isWordAt after = isWordAt before)
    (hMiss : ∀ front back, text = front ++ back → find (front.getLast?.or before) back = none →
      isWordAt (front.getLast?.or before) = false → leads phrase back = false) :
    Absent phrase after (rebuild r (scan find fuel before text)) := by
  have hNe : phrase ≠ [] := by
    rintro rfl
    cases hPhrase.1
  induction fuel generalizing before after text with
  | zero =>
    obtain rfl := List.eq_nil_of_length_eq_zero (Nat.le_zero.mp hFuel)
    exact .nil hNe
  | succ fuel ih =>
    cases text with
    | nil => exact .nil hNe
    | cons c text =>
      rw [scan]
      split
      · rename_i hit hHere
        have hRest := hClosed _ _ _ hHere
        have hSpells := hFind.spells _ _ _ hHere
        have hShorter : hit.rest.length ≤ fuel :=
          Nat.le_of_lt_succ ((hFind.length_rest_lt hHere).trans_le hFuel)
        have hNext := isWordAt_head?_rebuild_rest hFind hClosed hHere fuel
          (hit.found.getLast?.or before) (r := r)
        rw [rebuild_found]
        refine .put_append (apart_iff.mp (hApart _ _ _ hHere)).1 (fun _ => rfl) hNext (ih hShorter ?_ ?_)
        · intro hWord
          rw [hRest] at hWord
          cases hWord
        · intro front back hText
          rw [← Option.or_assoc, ← List.getLast?_append]
          exact hMiss (hit.found ++ front) back (by rw [hSpells, hText, List.append_assoc])
      · rename_i hNone
        have hShorter : text.length ≤ fuel := Nat.le_of_succ_le_succ hFuel
        rw [rebuild_plain, List.singleton_append]
        refine .cons (fun hOpen => ?_) (ih hShorter (fun _ => rfl) ?_)
        · by_contra hLeads
          obtain ⟨hc, hStands⟩ := leads_of_leads_kept hFind hClosed hPhrase
            (fun _ _ hit hHere => (apart_iff.mp (hApart _ _ hit hHere)).2) hShorter
            (Bool.not_eq_false _ ▸ hLeads)
          rw [hMiss [] (c :: text) rfl hNone ((hAfter hc).symm.trans hOpen)] at hStands
          cases hStands
        · intro front back hText
          rw [← getLast?_cons_or c front before]
          exact hMiss (c :: front) back (congrArg (c :: ·) hText)

/-- A phrase that can neither begin nor go on within what is put in stands in the new text only
where it has stood in the old one, at a place where nothing is found. -/
theorem absent_rebuild (hPhrase : IsWordlike phrase)
    (hApart : ∀ before text hit, find before text = some hit →
      apart phrase (r hit.label hit.found) = true)
    (hMiss : ∀ front back, text = front ++ back → find front.getLast? back = none →
      isWordAt front.getLast? = false → leads phrase back = false) :
    Absent phrase none (rebuild r (parts find text)) := by
  refine absent_rebuild_scan hFind hClosed hPhrase hApart (Nat.le_refl _) (fun _ => rfl) ?_
  simpa only [Option.or_none] using hMiss

end Rebuild

end Household.Reply
