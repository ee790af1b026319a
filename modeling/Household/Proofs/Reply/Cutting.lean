import Household.Proofs.Reply.Limits
import Household.Proofs.Reply.Ranges

/-! # Where a reply is cut

A reply with too many words is cut behind the last word allowed. Of what is kept, the part up to the
end of the last terminated sentence is taken if it is more than half of the bytes; otherwise loose
marks at the end make way for an ellipsis.
-/

set_option autoImplicit false

namespace Household.Reply

open Household.Text

variable {n limit : Nat} {text before s after kept out : List Char} {r : Span}

/-! ## What is kept -/

/-- The range goes from the beginning of the first word of the text to the end of its `n`-th word,
and holds `kept`. -/
structure Span.HoldsWords (r : Span) (n : Nat) (text kept : List Char) : Prop where
  cuts : ∃ before after, r.Cuts text before kept after ∧ before.all isSpace = true ∧
    after.head?.any isSpace = true
  first : kept.head?.any (!isSpace ·) = true
  last : kept.getLast?.any (!isSpace ·) = true
  words : words kept = (words text).take n

theorem words_eq_take (hBefore : before.all isSpace = true)
    (hAfter : after.head?.any isSpace = true) (hCount : wordCount kept = n) :
    words kept = (words (before ++ (kept ++ after))).take n := by
  have hParted : Parted (fun c => !isSpace c) kept after := by
    obtain ⟨c, hc, hSpace⟩ := (Option.any_eq_true _ _).mp hAfter
    exact .inr (by simp [hc, hSpace])
  have hLead : ∀ c ∈ before, (!isSpace c) = false := by
    intro c hc
    simp [List.all_eq_true.mp hBefore c hc]
  rw [wordCount, words_eq_runs] at hCount
  rw [words_eq_runs, words_eq_runs, runs_append_left hLead, runs_append hParted, ← hCount,
    List.take_left]

theorem exists_holdsWords (hn : 1 ≤ n) (h : firstWords? n text = some kept) :
    ∃ r : Span, r.HoldsWords n text kept := by
  have hCount := wordCount_of_firstWords? h
  obtain ⟨before, hBefore, rfl⟩ := Option.map_eq_some_iff.mp h
  obtain ⟨c, rest, rfl, hc, hGap, -⟩ := exists_of_beforeWord? hBefore
  obtain ⟨lead, trail, hSplit, hLead, hTrail⟩ := exists_append_trim before
  have hNonempty : trim before ≠ [] := by
    intro hNil
    rw [hNil, wordCount_nil] at hCount
    omega
  have hLast := any_getLast?_trim hNonempty
  have hAfter : (trail ++ c :: rest).head?.any isSpace = true := by
    cases trail with
    | nil =>
      rw [hSplit, List.append_nil, List.getLast?_append_of_ne_nil _ hNonempty] at hGap
      rw [hGap] at hLast
      cases hLast
    | cons d trail => exact (Bool.and_eq_true_iff.mp hTrail).1
  have hText : before ++ c :: rest = lead ++ (trim before ++ (trail ++ c :: rest)) := by
    have hSame := congrArg (· ++ c :: rest) hSplit
    simpa only [List.append_assoc] using hSame
  refine ⟨⟨byteSize lead, byteSize lead + byteSize (trim before)⟩,
    ⟨lead, trail ++ c :: rest, ⟨hText, rfl, rfl⟩, hLead, hAfter⟩, any_head?_trim hNonempty, hLast, ?_⟩
  rw [hText]
  exact words_eq_take hLead hAfter hCount

/-! ## The last sentence that is terminated -/

def Span.IsTerminated (r : Span) (text : List Char) : Prop :=
  ∃ before s after, r.Cuts text before s after ∧ isTerminated s = true

/-- The range of the last sentence of the text that is terminated. -/
def Span.IsLastTerminated (r : Span) (text : List Char) : Prop :=
  ∃ front later, spans text = front ++ r :: later ∧ r.IsTerminated text ∧
    ∀ q ∈ later, ¬q.IsTerminated text

/-- How a text that is too long for a reply is shortened. -/
inductive ShortenedTo (kept : List Char) : List Char → Prop where
  | sentence {r : Span} {before s after : List Char} (hLast : r.IsLastTerminated kept)
      (hHalf : byteSize kept / 2 < r.finish) (hCuts : r.Cuts kept before s after) :
      ShortenedTo kept (before ++ s)
  | ellipsis {body loose : List Char}
      (hNone : ¬∃ r : Span, r.IsLastTerminated kept ∧ byteSize kept / 2 < r.finish)
      (hSplit : kept = body ++ loose) (hLoose : loose.all isLoose = true)
      (hTight : body.getLast?.any isLoose = false) :
      ShortenedTo kept ((if body = [] then kept else body) ++ ellipsis.toList)

/-! ## The end of that sentence -/

theorem forall_iff_of_forall₂ {α β : Type} {related : α → β → Prop} {P : α → Prop} {Q : β → Prop}
    {as : List α} {bs : List β} (h : List.Forall₂ related as bs)
    (hSame : ∀ a b, related a b → (P a ↔ Q b)) : (∀ a ∈ as, P a) ↔ ∀ b ∈ bs, Q b := by
  induction h with
  | nil => simp
  | cons hRelated _ ih => rw [List.forall_mem_cons, List.forall_mem_cons, hSame _ _ hRelated, ih]

/-- The last of the elements that pass a test corresponds to the last of the partners with the
property that the test decides. -/
theorem exists_last_of_forall₂ {α β : Type} {related : α → β → Prop} {test : α → Bool}
    {Q : β → Prop} {as : List α} {bs : List β} (h : List.Forall₂ related as bs)
    (hTest : ∀ a b, related a b → (test a = true ↔ Q b)) {a : α}
    (hLast : (as.filter test).getLast? = some a) :
    ∃ front b later, bs = front ++ b :: later ∧ related a b ∧ Q b ∧ ∀ q ∈ later, ¬Q q := by
  induction h with
  | nil => cases hLast
  | @cons a₁ b₁ as bs hRelated hRest ih =>
    cases hNone : as.filter test with
    | nil =>
      have hLater : ∀ q ∈ bs, ¬Q q :=
        (forall_iff_of_forall₂ hRest fun a b hab => not_congr (hTest a b hab)).mp
          (List.filter_eq_nil_iff.mp hNone)
      rw [List.filter_cons, hNone] at hLast
      split at hLast
      · rename_i hFirst
        cases hLast
        exact ⟨[], b₁, bs, rfl, hRelated, (hTest _ _ hRelated).mp hFirst, hLater⟩
      · cases hLast
    | cons a₂ more =>
      have hSame : ((a₁ :: as).filter test).getLast? = (as.filter test).getLast? := by
        rw [List.filter_cons]
        split
        · rw [hNone, List.getLast?_cons_cons]
        · rfl
      obtain ⟨front, b, later, rfl, hFound⟩ := ih (hSame.symm.trans hLast)
      exact ⟨b₁ :: front, b, later, rfl, hFound⟩

theorem eq_of_last {α : Type} {P : α → Prop} {a b : α} {front later front' later' : List α}
    (h : front ++ a :: later = front' ++ b :: later') (ha : P a) (hb : P b)
    (hLater : ∀ q ∈ later, ¬P q) (hLater' : ∀ q ∈ later', ¬P q) : a = b := by
  rcases List.append_eq_append_iff.mp h with ⟨more, -, hRest⟩ | ⟨more, -, hRest⟩
  · cases more with
    | nil => exact (List.cons.inj hRest).1
    | cons c more =>
      obtain ⟨-, rfl⟩ := List.cons.inj hRest
      exact absurd hb (hLater b (by simp))
  · cases more with
    | nil => exact (List.cons.inj hRest).1.symm
    | cons c more =>
      obtain ⟨-, rfl⟩ := List.cons.inj hRest
      exact absurd ha (hLater' a (by simp))

theorem Span.IsLastTerminated.unique {q : Span} (h : r.IsLastTerminated text)
    (h' : q.IsLastTerminated text) : r = q := by
  obtain ⟨front, later, hSpans, hr, hLater⟩ := h
  obtain ⟨front', later', hSpans', hq, hLater'⟩ := h'
  exact eq_of_last (hSpans.symm.trans hSpans') hr hq hLater hLater'

/-- The text `upTo` goes to the end of the range, which is of a sentence. -/
def EndsWith (text upTo : List Char) (r : Span) : Prop :=
  ∃ before s after, r.Cuts text before s after ∧ upTo = before ++ s ∧
    before.getLast?.all isSpace = true

theorem EndsWith.isTerminated_iff {upTo : List Char} (h : EndsWith text upTo r) :
    isTerminated upTo = true ↔ r.IsTerminated text := by
  obtain ⟨before, s, after, hCuts, rfl, hSpace⟩ := h
  rw [isTerminated_append_left hSpace]
  constructor
  · exact fun hEnd => ⟨before, s, after, hCuts, hEnd⟩
  · rintro ⟨before', s', after', hCuts', hEnd⟩
    rwa [(hCuts.unique hCuts').2.1]

theorem Divides.forall₂_sentenceEnds (front : List Piece) {ps : List Piece} {tail : List Char}
    (h : Divides text (front ++ ps) tail) :
    List.Forall₂ (EndsWith text) (sentenceEnds (front.flatMap Piece.source) ps)
      (spansFrom (byteSize (front.flatMap Piece.source)) ps) := by
  induction ps generalizing front with
  | nil => exact .nil
  | cons p ps ih =>
    refine .cons ⟨_, _, _, h.cuts (by rw [byteSize_append]) rfl, rfl, h.all_getLast?_before⟩ ?_
    rw [List.append_cons] at h
    have hLater := ih (front ++ [p]) h
    rwa [List.flatMap_append, List.flatMap_singleton, Piece.source, ← List.append_assoc,
      byteSize_append, byteSize_append] at hLater

theorem forall₂_sentenceEnds (text : List Char) :
    List.Forall₂ (EndsWith text) (sentenceEnds [] (pieces text)) (spans text) := by
  obtain ⟨tail, hDivides⟩ := divides_pieces text
  exact hDivides.forall₂_sentenceEnds []

theorem exists_of_lastTerminated?_eq_some {upTo : List Char}
    (h : lastTerminated? text = some upTo) :
    ∃ r : Span, r.IsLastTerminated text ∧ EndsWith text upTo r := by
  obtain ⟨front, r, later, hSpans, hEnds, hr, hLater⟩ :=
    exists_last_of_forall₂ (forall₂_sentenceEnds text) (fun _ _ h => h.isTerminated_iff) h
  exact ⟨r, ⟨front, later, hSpans, hr, hLater⟩, hEnds⟩

theorem not_isLastTerminated_of_lastTerminated? (h : lastTerminated? text = none) :
    ¬r.IsLastTerminated text := by
  rintro ⟨front, later, hSpans, hr, -⟩
  have hNone := List.filter_eq_nil_iff.mp (List.getLast?_eq_none_iff.mp h)
  refine (forall_iff_of_forall₂ (forall₂_sentenceEnds text) fun _ _ h =>
    not_congr h.isTerminated_iff).mp hNone r ?_ hr
  rw [hSpans]
  simp

/-! ## The cut -/

theorem shortenedTo_withEllipsis
    (hNone : ¬∃ r : Span, r.IsLastTerminated kept ∧ byteSize kept / 2 < r.finish) :
    ShortenedTo kept (withEllipsis kept) := by
  obtain ⟨loose, hSplit, hLoose⟩ := exists_append_dropEndWhile isLoose kept
  have hTight : (dropEndWhile isLoose kept).getLast?.any isLoose = false := by
    cases hLast : (dropEndWhile isLoose kept).getLast? with
    | none => rfl
    | some c => exact getLast_dropEndWhile isLoose kept hLast
  have hShort := ShortenedTo.ellipsis hNone hSplit hLoose hTight
  rw [withEllipsis]
  simpa only [List.isEmpty_iff] using hShort

theorem wordCount_pos (h : isBlank text = false) : 1 ≤ wordCount text := by
  have hVisible : text.dropWhile isSpace ≠ [] := by
    intro hNil
    rw [isBlank, List.all_eq_true.mpr (List.dropWhile_eq_nil_iff.mp hNil)] at h
    cases h
  rw [wordCount_eq_length_runs, ← runs_dropWhile (q := isSpace) fun c hc => by simp [hc]]
  exact List.length_pos_of_ne_nil (runs_ne_nil (any_head?_dropWhile_isSpace text hVisible))

theorem shortenedTo_of_enforce? (h : enforce? limit text = some out) :
    ∃ kept, firstWords? (max limit 1) text = some kept ∧ ShortenedTo kept out := by
  obtain ⟨kept, hKept, hOut⟩ := Option.map_eq_some_iff.mp h
  refine ⟨kept, hKept, ?_⟩
  split at hOut
  · rename_i upTo hLast
    obtain ⟨r, hr, before, s, after, hCuts, rfl, -⟩ := exists_of_lastTerminated?_eq_some hLast
    rw [byteSize_append, ← hCuts.finish] at hOut
    split at hOut
    · rename_i hHalf
      rw [← hOut]
      exact .sentence hr hHalf hCuts
    · rename_i hEarly
      rw [← hOut]
      refine shortenedTo_withEllipsis ?_
      rintro ⟨q, hq, hHalf⟩
      rw [hq.unique hr] at hHalf
      exact hEarly hHalf
  · rename_i hNone
    rw [← hOut]
    refine shortenedTo_withEllipsis ?_
    rintro ⟨q, hq, -⟩
    exact not_isLastTerminated_of_lastTerminated? hNone hq

/-- A text is cut exactly if it has more words than allowed. What is kept is the range of its first
words, shortened to its last terminated sentence or with an ellipsis, and is not without words. -/
theorem enforce?_cuts_after_words (limit : Nat) (text : List Char) :
    (enforce? limit text = none ↔ wordCount text ≤ max limit 1) ∧
      ∀ out, enforce? limit text = some out →
        (∃ r kept, Span.HoldsWords r (max limit 1) text kept ∧ ShortenedTo kept out) ∧
          1 ≤ wordCount out ∧ wordCount out ≤ max limit 1 := by
  refine ⟨enforce?_eq_none_iff, fun out hOut => ⟨?_, ?_, wordCount_enforce?_le hOut⟩⟩
  · obtain ⟨kept, hKept, hShort⟩ := shortenedTo_of_enforce? hOut
    obtain ⟨r, hr⟩ := exists_holdsWords (Nat.le_max_right limit 1) hKept
    exact ⟨r, kept, hr, hShort⟩
  · exact wordCount_pos (isBlank_enforce? hOut)

end Household.Reply
