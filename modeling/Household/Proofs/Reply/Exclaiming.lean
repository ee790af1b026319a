import Household.Proofs.Reply.Ranges
import Household.Proofs.Text.Runs
import Household.Reply.Style

/-! # The exclamation mark of a playful reply

Of the first sentence, the last terminator is looked at. If it is a period that stands alone, an
exclamation mark takes its place. The text then divides into sentences at the same places, and a
second time nothing changes. Only closing marks come after the period if the sentence is terminated;
one that trails off may lose the point of a number.
-/

set_option autoImplicit false

namespace Household.Text

theorem dropEndWhile_append_cons {p : Char → Bool} {c : Char} {run : List Char} (s : List Char)
    (hc : p c = false) (hRun : ∀ d ∈ run, p d = true) :
    dropEndWhile p (s ++ c :: run) = s ++ [c] := by
  have hDropped : dropEndWhile p run = [] := dropEndWhile_eq_nil (List.all_eq_true.mpr hRun)
  rw [List.append_cons, dropEndWhile_append, if_pos hDropped]
  exact dropEndWhile_eq_self (by simp [hc])

end Household.Text

namespace Household.Reply

open Household.Text

variable {text out s before run before' run' rest tail : List Char} {mark mark' : Char} {p : Piece}
  {later : List Piece}

/-! ## The last terminator -/

structure LastMark (s before : List Char) (mark : Char) (run : List Char) : Prop where
  spells : s = before ++ mark :: run
  terminates : isTerminator mark = true
  unmarked : ∀ c ∈ run, isTerminator c = false

namespace LastMark

theorem dropEndWhile_eq (h : LastMark s before mark run) :
    dropEndWhile (!isTerminator ·) s = before ++ [mark] := by
  rw [h.spells]
  exact dropEndWhile_append_cons before (by simp [h.terminates]) (by simpa using h.unmarked)

theorem unique (h : LastMark s before mark run) (h' : LastMark s before' mark' run') :
    before = before' ∧ mark = mark' ∧ run = run' := by
  have hKept := h.dropEndWhile_eq.symm.trans h'.dropEndWhile_eq
  obtain ⟨rfl, hMark⟩ := List.append_inj' hKept rfl
  have hRest := h.spells.symm.trans h'.spells
  rw [List.append_cancel_left_eq] at hRest
  exact ⟨rfl, List.cons.inj hRest⟩

theorem isTerminated_iff (h : LastMark s before mark run) :
    isTerminated s = true ↔ ∀ c ∈ run, isCloser c = true := by
  obtain ⟨rfl, hMark, hRun⟩ := h
  induction run using List.reverseRecOn with
  | nil => simp [isTerminated_concat, hMark]
  | append_singleton run c ih =>
    have hEarlier := ih fun d hd => hRun d (List.mem_append_left _ hd)
    have hc := hRun c (List.mem_append_right _ List.mem_cons_self)
    rw [← List.cons_append, ← List.append_assoc, isTerminated_concat, hc, Bool.false_or,
      Bool.and_eq_true, hEarlier, List.forall_mem_append, List.forall_mem_singleton]

end LastMark

theorem unmarked_or_exists_lastMark (s : List Char) :
    (∀ c ∈ s, isTerminator c = false) ∨ ∃ before mark run, LastMark s before mark run := by
  obtain ⟨run, hs, hRun⟩ := exists_append_dropEndWhile (!isTerminator ·) s
  have hUnmarked : ∀ c ∈ run, isTerminator c = false := by simpa using hRun
  rcases List.eq_nil_or_concat (dropEndWhile (!isTerminator ·) s) with hNil | ⟨before, mark, hKept⟩
  · rw [hNil, List.nil_append] at hs
    exact .inl (hs ▸ hUnmarked)
  · rw [List.concat_eq_append] at hKept
    have hMark : (!isTerminator mark) = false :=
      getLast_dropEndWhile (!isTerminator ·) s (by simp [hKept])
    rw [hKept, List.append_assoc, List.singleton_append] at hs
    exact .inr ⟨before, mark, run, hs, by simpa using hMark, hUnmarked⟩

/-! ## What becomes of the text -/

theorem exclaim?_of_unmarked (hPieces : pieces text = p :: later)
    (h : ∀ c ∈ p.sentence, isTerminator c = false) : exclaim? text = none := by
  have hBody : dropEndWhile (!isTerminator ·) p.sentence = [] :=
    dropEndWhile_eq_nil (by simpa using h)
  rw [exclaim?, hPieces]
  dsimp only
  rw [hBody]
  rfl

theorem exclaim?_of_lastMark (hPieces : pieces text = p :: later)
    (hText : text = p.gap ++ (p.sentence ++ rest)) (h : LastMark p.sentence before mark run) :
    exclaim? text =
      if mark = '.' ∧ before.getLast? ≠ some '.' then
        some (p.gap ++ (before ++ '!' :: (run ++ rest)))
      else none := by
  have hDrop : text.drop (p.gap.length + (before ++ [mark]).length) = run ++ rest := by
    have hSplit : text = (p.gap ++ (before ++ [mark])) ++ (run ++ rest) := by
      rw [hText, h.spells]
      simp
    rw [← List.length_append]
    exact (congrArg (List.drop _) hSplit).trans List.drop_left
  rw [exclaim?, hPieces]
  dsimp only
  rw [h.dropEndWhile_eq, hDrop, List.reverse_append, List.reverse_singleton, List.singleton_append]
  by_cases hDot : mark = '.'
  · subst hDot
    simp only [List.head?_reverse, List.reverse_reverse, true_and]
    by_cases hDots : before.getLast? = some '.'
    · rw [if_pos hDots, if_neg (not_not.mpr hDots)]
    · rw [if_neg hDots, if_pos hDots, List.append_assoc]
  · rw [if_neg fun hBoth => hDot hBoth.1]
    split
    · rename_i hReverse
      exact absurd (List.cons.inj hReverse).1 hDot
    · rfl

/-- The last terminator of the first sentence is a period with none right before it. -/
def EndsOnPeriod (text : List Char) : Prop :=
  ∃ p before run, (pieces text).head? = some p ∧ LastMark p.sentence before '.' run ∧
    before.getLast? ≠ some '.'

theorem not_endsOnPeriod_of_unmarked (hPieces : pieces text = p :: later)
    (h : ∀ c ∈ p.sentence, isTerminator c = false) : ¬EndsOnPeriod text := by
  rintro ⟨q, before, run, hFirst, hLast, -⟩
  rw [hPieces, List.head?_cons] at hFirst
  obtain rfl := Option.some.inj hFirst
  have hDot := h '.' (by simp [hLast.spells])
  cases hDot

theorem endsOnPeriod_iff_of_lastMark (hPieces : pieces text = p :: later)
    (h : LastMark p.sentence before mark run) :
    EndsOnPeriod text ↔ mark = '.' ∧ before.getLast? ≠ some '.' := by
  constructor
  · rintro ⟨q, front, trail, hFirst, hLast, hAlone⟩
    rw [hPieces, List.head?_cons] at hFirst
    obtain rfl := Option.some.inj hFirst
    obtain ⟨rfl, rfl, rfl⟩ := h.unique hLast
    exact ⟨rfl, hAlone⟩
  · rintro ⟨rfl, hAlone⟩
    exact ⟨p, before, run, by rw [hPieces, List.head?_cons], h, hAlone⟩

/-! ## One terminator for another -/

theorem isTerminated_swap (before run : List Char) (hMark : isTerminator mark = true)
    (hMark' : isTerminator mark' = true) :
    isTerminated (before ++ mark' :: run) = isTerminated (before ++ mark :: run) := by
  induction run using List.reverseRecOn with
  | nil => rw [isTerminated_concat, isTerminated_concat, hMark, hMark', Bool.true_or, Bool.true_or]
  | append_singleton run c ih =>
    rw [← List.cons_append, ← List.cons_append, ← List.append_assoc, ← List.append_assoc,
      isTerminated_concat, isTerminated_concat, ih]

-- The place where a sentence ends comes before the terminator or after it.
theorem isBroken_of_swap (hMark : isTerminator mark = true) (hMark' : isTerminator mark' = true)
    (h : IsBroken (before ++ mark' :: run)) : IsBroken (before ++ mark :: run) := by
  obtain ⟨front, gap, after, hSplit, hFront, hGap⟩ := isBroken_iff.mp h
  have hNe : mark' ≠ gap := by
    rintro rfl
    rw [isSpace_eq_false_of_isTerminator hMark'] at hGap
    cases hGap
  rcases List.append_eq_append_iff.mp hSplit with ⟨more, rfl, hRest⟩ | ⟨more, rfl, hRest⟩
  · cases more with
    | nil => exact absurd (List.cons.inj hRest).1 hNe
    | cons c more =>
      obtain ⟨rfl, rfl⟩ := List.cons.inj hRest
      refine isBroken_iff.mpr ⟨before ++ mark :: more, gap, after, by simp, ?_, hGap⟩
      rwa [isTerminated_swap before more hMark' hMark]
  · cases more with
    | nil => exact absurd (List.cons.inj hRest).1.symm hNe
    | cons c more =>
      obtain ⟨rfl, rfl⟩ := List.cons.inj hRest
      exact isBroken_iff.mpr ⟨front, gap, more ++ mark :: run, by simp, hFront, hGap⟩

theorem Piece.IsProper.swap (h : p.IsProper) (hSentence : p.sentence = before ++ mark :: run)
    (hMark : isTerminator mark = true) (hMark' : isTerminator mark' = true) :
    Piece.IsProper ⟨p.gap, before ++ mark' :: run⟩ := by
  have hVisible := isSpace_eq_false_of_isTerminator hMark'
  obtain ⟨hGap, hFirst, hLast, hWhole⟩ := h
  rw [hSentence] at hFirst hLast hWhole
  refine ⟨hGap, ?_, ?_, fun hBroken => hWhole (isBroken_of_swap hMark hMark' hBroken)⟩
  · cases before with
    | nil => simp [hVisible]
    | cons c before => exact hFirst
  · cases run with
    | nil => simp [hVisible]
    | cons c run => simpa using hLast

theorem Divides.swap (h : Divides text (p :: later) tail)
    (hSentence : p.sentence = before ++ mark :: run) (hMark : isTerminator mark = true)
    (hMark' : isTerminator mark' = true) :
    Divides (p.gap ++ (before ++ mark' :: run) ++ (later.flatMap Piece.source ++ tail))
      (⟨p.gap, before ++ mark' :: run⟩ :: later) tail := by
  refine .cons ((h.proper p List.mem_cons_self).swap hSentence hMark hMark') (fun hMore => ?_)
    h.tail_divides
  obtain ⟨hEnd, hHead⟩ := h.ends hMore
  rw [hSentence, ← isTerminated_swap before run hMark hMark'] at hEnd
  exact ⟨hEnd, hHead⟩

/-! ## What changes -/

/-- An exclamation mark has taken the place of one period, after which `run` is left of the first
sentence `p`. The sentences stay where they are, and there is no more to change. -/
structure Exclaims (text out : List Char) (p : Piece) (run : List Char) : Prop where
  first : (pieces text).head? = some p
  swaps : ∃ before rest, p.sentence = before ++ '.' :: run ∧
    text = p.gap ++ (before ++ '.' :: (run ++ rest)) ∧
      out = p.gap ++ (before ++ '!' :: (run ++ rest))
  spans_eq : spans out = spans text
  settled : exclaim? out = none

theorem exclaims_of_lastMark (hPieces : pieces text = p :: later)
    (hText : text = p.gap ++ (p.sentence ++ rest)) (h : LastMark p.sentence before '.' run) :
    Exclaims text (p.gap ++ (before ++ '!' :: (run ++ rest))) p run := by
  obtain ⟨tail, hDivides⟩ := divides_pieces text
  rw [hPieces] at hDivides
  have hRest : later.flatMap Piece.source ++ tail = rest := by
    have hSame := hDivides.eq_append.symm.trans hText
    simpa only [List.append_cancel_left_eq] using hSame
  have hOut : p.gap ++ (before ++ '!' :: run) ++ rest = p.gap ++ (before ++ '!' :: (run ++ rest)) := by
    simp
  have hPeriod : isTerminator '.' = true := rfl
  have hExclamation : isTerminator '!' = true := rfl
  have hSwap := hDivides.swap h.spells hPeriod hExclamation
  rw [hRest, hOut] at hSwap
  have hSize : byteSize (before ++ '!' :: run) = byteSize p.sentence := by
    rw [h.spells, byteSize_append, byteSize_append]
    rfl
  constructor
  · rw [hPieces, List.head?_cons]
  · exact ⟨before, rest, h.spells, by rw [hText, h.spells, List.append_assoc, List.cons_append], rfl⟩
  · rw [spans, spans, hSwap.pieces_eq, hPieces, spansFrom, spansFrom, hSize]
  · have hMark : LastMark (before ++ '!' :: run) before '!' run := ⟨rfl, rfl, h.unmarked⟩
    have hSpells : p.gap ++ (before ++ '!' :: (run ++ rest)) =
        p.gap ++ ((before ++ '!' :: run) ++ rest) := by simp
    rw [exclaim?_of_lastMark hSwap.pieces_eq hSpells hMark]
    exact if_neg fun hDot => absurd hDot.1 (by decide)

theorem idle_or_exists_lastMark (text : List Char) :
    (exclaim? text = none ∧ ¬EndsOnPeriod text) ∨
      ∃ p later before mark run, pieces text = p :: later ∧ LastMark p.sentence before mark run := by
  cases hPieces : pieces text with
  | nil =>
    refine .inl ⟨by rw [exclaim?, hPieces], ?_⟩
    rintro ⟨p, -, -, hFirst, -⟩
    rw [hPieces] at hFirst
    cases hFirst
  | cons p later =>
    rcases unmarked_or_exists_lastMark p.sentence with hNone | ⟨before, mark, run, hLast⟩
    · exact .inl ⟨exclaim?_of_unmarked hPieces hNone, not_endsOnPeriod_of_unmarked hPieces hNone⟩
    · exact .inr ⟨p, later, before, mark, run, rfl, hLast⟩

theorem exclaim?_eq_none_iff : exclaim? text = none ↔ ¬EndsOnPeriod text := by
  rcases idle_or_exists_lastMark text with ⟨hNone, hIdle⟩ | ⟨p, later, before, mark, run, hPieces, hLast⟩
  · exact iff_of_true hNone hIdle
  · obtain ⟨tail, hDivides⟩ := divides_pieces text
    rw [hPieces] at hDivides
    rw [exclaim?_of_lastMark hPieces hDivides.eq_append hLast,
      endsOnPeriod_iff_of_lastMark hPieces hLast]
    by_cases hLone : mark = '.' ∧ before.getLast? ≠ some '.' <;> simp [hLone]

theorem exists_exclaims (h : exclaim? text = some out) :
    ∃ p run, Exclaims text out p run ∧
      (isTerminated p.sentence = true ↔ ∀ c ∈ run, isCloser c = true) := by
  rcases idle_or_exists_lastMark text with ⟨hNone, -⟩ | ⟨p, later, before, mark, run, hPieces, hLast⟩
  · rw [hNone] at h
    cases h
  · obtain ⟨tail, hDivides⟩ := divides_pieces text
    rw [hPieces] at hDivides
    rw [exclaim?_of_lastMark hPieces hDivides.eq_append hLast] at h
    split at h
    · rename_i hLone
      obtain rfl := hLone.1
      cases h
      exact ⟨p, run, exclaims_of_lastMark hPieces hDivides.eq_append hLast, hLast.isTerminated_iff⟩
    · cases h

/-- A lone period at the end of the first sentence becomes an exclamation mark, and nothing else
changes. Only closing marks come after it exactly if the sentence is terminated. -/
theorem exclaim?_swaps_last_period (text : List Char) :
    (exclaim? text = none ∧ ¬EndsOnPeriod text) ∨
      ∃ out p run, exclaim? text = some out ∧ EndsOnPeriod text ∧ Exclaims text out p run ∧
        (isTerminated p.sentence = true ↔ ∀ c ∈ run, isCloser c = true) := by
  cases h : exclaim? text with
  | none => exact .inl ⟨rfl, exclaim?_eq_none_iff.mp h⟩
  | some out =>
    obtain ⟨p, run, hExclaims, hClosers⟩ := exists_exclaims h
    have hLone : EndsOnPeriod text := by
      by_contra hIdle
      rw [exclaim?_eq_none_iff.mpr hIdle] at h
      cases h
    exact .inr ⟨out, p, run, rfl, hLone, hExclaims, hClosers⟩

def trailingOff : List Char := "It is 21.5".toList

/-- The point of a number is taken for the period at the end. -/
theorem not_only_closers_trailingOff :
    ¬∀ text, exclaim? text = none ∨ ∃ out p run, exclaim? text = some out ∧ Exclaims text out p run ∧
      ∀ c ∈ run, isCloser c = true := by
  intro h
  have hChanged : exclaim? trailingOff = some "It is 21!5".toList := by decide
  have hFirst : (pieces trailingOff).head? = some ⟨[], trailingOff⟩ := by decide
  rcases h trailingOff with hNone | ⟨out, p, run, -, hExclaims, hClosers⟩
  · rw [hChanged] at hNone
    cases hNone
  · obtain ⟨before, rest, hSentence, -, -⟩ := hExclaims.swaps
    obtain rfl := Option.some.inj (hFirst.symm.trans hExclaims.first)
    have hLast := congrArg List.getLast? hSentence
    rw [List.getLast?_append_cons, List.getLast?_cons] at hLast
    have hFive : (run.getLast?.getD '.') = '5' := (Option.some.inj hLast).symm
    cases hRun : run.getLast? with
    | none =>
      rw [hRun] at hFive
      cases hFive
    | some c =>
      have hc : isCloser c = true := hClosers c (List.mem_of_getLast? hRun)
      rw [hRun, Option.getD_some] at hFive
      rw [hFive] at hc
      cases hc

end Household.Reply
