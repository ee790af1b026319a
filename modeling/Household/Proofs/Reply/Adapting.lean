import Household.Proofs.Reply.Limits
import Household.Proofs.Reply.Passes
import Household.Proofs.Reply.Tables

/-! # What becomes of a draft

A reply has no more words than its profile allows, and it has something to say if the draft had.
It is the draft itself, uncut, if there are no notes on what was done.
-/

set_option autoImplicit false

namespace Household.Reply

open Household.Text

variable {p : Profile} {draft out : List Char}

/-- The reply whose length is looked at: all passes are done and a blank text is replaced. -/
def fullReply (p : Profile) (draft : List Char) : Edit :=
  refill draft ((runAll (passes p) draft).getD ⟨draft, []⟩)

/-- The full reply, cut if it is too long; more is noted exactly if it is cut. -/
theorem exists_adapt_eq (p : Profile) (draft : List Char) :
    ∃ more,
      adapt p draft =
        ⟨(enforce? p.maxResponseLength (fullReply p draft).text).getD (fullReply p draft).text,
          (fullReply p draft).notes ++ more,
          (enforce? p.maxResponseLength (fullReply p draft).text).isSome,
          wordCount ((enforce? p.maxResponseLength (fullReply p draft).text).getD
            (fullReply p draft).text)⟩ ∧
      (more = [] ↔ enforce? p.maxResponseLength (fullReply p draft).text = none) := by
  cases h : enforce? p.maxResponseLength (fullReply p draft).text with
  | none =>
    refine ⟨[], ?_, by simp⟩
    rw [fullReply] at h
    rw [adapt, List.append_nil]
    dsimp only
    rw [h]
    rfl
  | some out =>
    let note := s!"truncated from {wordCount (fullReply p draft).text} to {wordCount out} words"
    refine ⟨[note], ?_, by simp⟩
    rw [fullReply] at h
    rw [adapt]
    dsimp only
    rw [h]
    rfl

theorem text_adapt (p : Profile) (draft : List Char) :
    (adapt p draft).text =
      (enforce? p.maxResponseLength (fullReply p draft).text).getD (fullReply p draft).text := by
  obtain ⟨more, hAdapt, -⟩ := exists_adapt_eq p draft
  rw [hAdapt]

theorem wordCount_adapt (p : Profile) (draft : List Char) :
    (adapt p draft).wordCount = wordCount (adapt p draft).text := by
  obtain ⟨more, hAdapt, -⟩ := exists_adapt_eq p draft
  rw [hAdapt]

theorem truncated_adapt_iff :
    (adapt p draft).truncated = true ↔
      max p.maxResponseLength 1 < wordCount (fullReply p draft).text := by
  obtain ⟨more, hAdapt, -⟩ := exists_adapt_eq p draft
  rw [hAdapt, Option.isSome_iff_ne_none, ← Nat.not_le, ← enforce?_eq_none_iff]

theorem wordCount_text_adapt_le (p : Profile) (draft : List Char) :
    wordCount (adapt p draft).text ≤ max p.maxResponseLength 1 := by
  rw [text_adapt]
  cases h : enforce? p.maxResponseLength (fullReply p draft).text with
  | none => exact enforce?_eq_none_iff.mp h
  | some out => exact wordCount_enforce?_le h

/-! ## Blank drafts and others -/

theorem wordCount_of_isBlank (h : isBlank draft = true) : wordCount draft = 0 := by
  have hNone : ∀ c ∈ draft, (!isSpace c) = false := fun c hc => by
    rw [List.all_eq_true.mp h c hc, Bool.not_true]
  rw [wordCount_eq_length_runs, runs_eq_nil hNone, List.length_nil]

theorem fullReply_of_isBlank (h : isBlank draft = true) : fullReply p draft = ⟨draft, []⟩ := by
  have hRun : runAll (passes p) draft = none :=
    runAll_eq_none_iff.mpr fun pass hMem => (orderly_of_mem_passes pass hMem).blank draft h
  rw [fullReply, hRun, Option.getD_none, refill, h, Bool.not_true, Bool.and_false]
  rfl

theorem isBlank_fullReply (p : Profile) (draft : List Char) :
    isBlank (fullReply p draft).text = isBlank draft := by
  cases hDraft : isBlank draft with
  | true => rw [fullReply_of_isBlank hDraft, hDraft]
  | false =>
    rw [fullReply, refill]
    split
    · change isBlank fallbackSentence.toList = false
      decide
    · rename_i hFull
      simpa [hDraft] using hFull

theorem text_adapt_of_isBlank (h : isBlank draft = true) : (adapt p draft).text = draft := by
  have hFits : enforce? p.maxResponseLength draft = none := by
    rw [enforce?_eq_none_iff, wordCount_of_isBlank h]
    exact Nat.zero_le _
  rw [text_adapt, fullReply_of_isBlank h, hFits, Option.getD_none]

theorem isBlank_text_adapt (p : Profile) (draft : List Char) :
    isBlank (adapt p draft).text = isBlank draft := by
  rw [text_adapt]
  cases h : enforce? p.maxResponseLength (fullReply p draft).text with
  | none => rw [Option.getD_none, isBlank_fullReply]
  | some out =>
    have hDraft : isBlank draft = false := by
      rw [Bool.eq_false_iff]
      intro hBlank
      have hFits := enforce?_eq_none_iff.mpr
        ((wordCount_of_isBlank hBlank).trans_le (Nat.zero_le (max p.maxResponseLength 1)))
      rw [fullReply_of_isBlank hBlank, hFits] at h
      cases h
    rw [Option.getD_some, isBlank_enforce? h, hDraft]

theorem adapt_within_length (p : Profile) (draft : List Char) :
    wordCount (adapt p draft).text ≤ max 1 p.maxResponseLength ∧
    (adapt p draft).wordCount = (runs (!isSpace ·) (adapt p draft).text).length ∧
    (adapt p draft).text =
      (enforce? p.maxResponseLength (fullReply p draft).text).getD (fullReply p draft).text ∧
    ((adapt p draft).truncated = true ↔
      max 1 p.maxResponseLength < wordCount (fullReply p draft).text) ∧
    ((adapt p draft).text = [] ↔ draft = []) ∧
    isBlank (adapt p draft).text = isBlank draft := by
  rw [Nat.max_comm]
  refine ⟨wordCount_text_adapt_le p draft, ?_, text_adapt p draft, truncated_adapt_iff, ?_,
    isBlank_text_adapt p draft⟩
  · rw [wordCount_adapt, wordCount_eq_length_runs]
  · constructor
    · intro hNil
      have hBlank := isBlank_text_adapt p draft
      rw [hNil] at hBlank
      rw [← text_adapt_of_isBlank hBlank.symm, hNil]
    · rintro rfl
      exact text_adapt_of_isBlank rfl

/-! ## Notes -/

theorem notes_fullReply_eq_nil_iff :
    (fullReply p draft).notes = [] ↔ ∀ pass ∈ passes p, pass draft = none := by
  rw [← runAll_eq_none_iff, fullReply]
  cases hRun : runAll (passes p) draft with
  | none =>
    rw [Option.getD_none, refill]
    simp
  | some e =>
    have hNoted := (orderly_runAll orderly_of_mem_passes).noted draft e hRun
    rw [Option.getD_some, refill]
    split <;> simp [hNoted]

theorem fullReply_of_untouched (h : ∀ pass ∈ passes p, pass draft = none) :
    fullReply p draft = ⟨draft, []⟩ := by
  rw [fullReply, runAll_eq_none_iff.mpr h, Option.getD_none, refill]
  simp

theorem notes_adapt_eq_nil_iff :
    (adapt p draft).notes = [] ↔
      (∀ pass ∈ passes p, pass draft = none) ∧ wordCount draft ≤ max p.maxResponseLength 1 := by
  obtain ⟨more, hAdapt, hMore⟩ := exists_adapt_eq p draft
  rw [hAdapt, List.append_eq_nil_iff, hMore, notes_fullReply_eq_nil_iff, enforce?_eq_none_iff]
  refine and_congr_right fun hUntouched => ?_
  rw [fullReply_of_untouched hUntouched]

theorem adapt_silent_untouched (p : Profile) (draft : List Char) :
    ((adapt p draft).notes = [] →
      (adapt p draft).text = draft ∧ (adapt p draft).truncated = false) ∧
    ((adapt p draft).notes = [] ↔
      (∀ pass ∈ passes p, pass draft = none) ∧ wordCount draft ≤ max 1 p.maxResponseLength) ∧
    ∀ pairs text e found, (e, found) ∈ hits (parts (WordTable.ofPairs pairs).find text) →
      (WordTable.ofPairs pairs).lookUp? found = some e := by
  rw [Nat.max_comm]
  refine ⟨fun hSilent => ?_, notes_adapt_eq_nil_iff, fun _ _ _ _ => lookUp?_of_mem_hits⟩
  obtain ⟨hUntouched, hFits⟩ := notes_adapt_eq_nil_iff.mp hSilent
  have hReply := fullReply_of_untouched hUntouched
  constructor
  · rw [text_adapt, hReply, enforce?_eq_none_iff.mpr hFits, Option.getD_none]
  · rw [Bool.eq_false_iff, Ne, truncated_adapt_iff, hReply]
    exact Nat.not_lt.mpr hFits

end Household.Reply
