import Household.Proofs.Reply.Dividing

/-! # The ranges of sentences

The bytes of a text that belong to its sentences. There is one list of ranges on character
boundaries, in order and apart from each other, that covers all but white space, begins and ends
each range on something visible, ends each range but the last where a sentence ends, and has no
such end within a range. These are the ranges that the sentences of a text take up.
-/

set_option autoImplicit false

namespace Household.Text

variable {s t r s' r' : List Char}

@[simp] theorem byteSize_nil : byteSize [] = 0 := rfl

@[simp] theorem byteSize_append (s t : List Char) : byteSize (s ++ t) = byteSize s + byteSize t := by
  induction s with
  | nil => simp
  | cons c rest ih => rw [List.cons_append, byteSize, byteSize, ih, Nat.add_assoc]

theorem byteSize_pos (h : s ≠ []) : 0 < byteSize s := by
  cases s with
  | nil => exact absurd rfl h
  | cons c rest => exact Nat.add_pos_left c.utf8Size_pos _

theorem eq_nil_of_byteSize_append_le (h : byteSize (s ++ t) ≤ byteSize s) : t = [] := by
  by_contra ht
  have hPos := byteSize_pos ht
  rw [byteSize_append] at h
  omega

theorem prefix_of_byteSize_le (h : s ++ r = s' ++ r') (hSize : byteSize s ≤ byteSize s') :
    s <+: s' := by
  rcases List.prefix_or_prefix_of_prefix (List.prefix_append s r) (h ▸ List.prefix_append s' r')
    with hPrefix | ⟨more, rfl⟩
  · exact hPrefix
  · have hSame : s' ++ more = s' := by rw [eq_nil_of_byteSize_append_le hSize, List.append_nil]
    exact ⟨[], by rw [List.append_nil, hSame]⟩

theorem eq_of_byteSize_eq (h : s ++ r = s' ++ r') (hSize : byteSize s = byteSize s') : s = s' := by
  obtain ⟨more, rfl⟩ := prefix_of_byteSize_le h hSize.le
  rw [eq_nil_of_byteSize_append_le hSize.ge, List.append_nil]

theorem place_append {before after : List Char} {c : Char} (h : before ++ c :: after = s ++ t) :
    (c ∈ s ∧ byteSize before < byteSize s) ∨
      ∃ more, before = s ++ more ∧ t = more ++ c :: after := by
  rcases List.append_eq_append_iff.mp h with ⟨more, rfl, hRest⟩ | hLater
  · cases more with
    | nil => exact .inr ⟨[], by simp, hRest.symm⟩
    | cons d more =>
      obtain ⟨rfl, -⟩ := List.cons.inj hRest
      refine .inl ⟨by simp, ?_⟩
      have hPos := byteSize_pos (List.cons_ne_nil c more)
      rw [byteSize_append]
      omega
  · exact .inr hLater

end Household.Text

namespace Household.Reply

open Household.Text

variable {text before s after before' s' after' tail : List Char} {r q : Span} {start : Nat}
  {p : Piece} {ps : List Piece} {done ranges : List Span}

/-- The range begins and ends between characters of the text, and holds those of `s`. -/
structure Span.Cuts (r : Span) (text before s after : List Char) : Prop where
  spells : text = before ++ (s ++ after)
  start : r.start = byteSize before
  finish : r.finish = byteSize before + byteSize s

theorem Span.Cuts.unique (h : r.Cuts text before s after) (h' : r.Cuts text before' s' after') :
    before = before' ∧ s = s' ∧ after = after' := by
  have hText := h.spells.symm.trans h'.spells
  have hBefore := eq_of_byteSize_eq hText (h.start.symm.trans h'.start)
  subst hBefore
  rw [List.append_cancel_left_eq] at hText
  have hSize : byteSize s = byteSize s' := by
    have hFinish := h.finish.symm.trans h'.finish
    omega
  have hs := eq_of_byteSize_eq hText hSize
  subst hs
  exact ⟨rfl, rfl, List.append_cancel_left hText⟩

def Span.Misses (r : Span) (place : Nat) : Prop := place < r.start ∨ r.finish ≤ place

/-- The ranges are those of sentences, said of the ranges alone. -/
structure Segments (text : List Char) (ranges : List Span) : Prop where
  cuts : ∀ r ∈ ranges, ∃ before s after, r.Cuts text before s after
  ordered : ranges.Pairwise fun r q => r.start < q.start ∧ r.finish ≤ q.start
  blank : ∀ before c after, text = before ++ c :: after →
    (∀ r ∈ ranges, r.Misses (byteSize before)) → isSpace c = true
  edges : ∀ r ∈ ranges, ∀ before s after, r.Cuts text before s after →
    s.head?.any (!isSpace ·) = true ∧ s.getLast?.any (!isSpace ·) = true
  ends : ∀ r ∈ ranges.dropLast, ∀ before s after, r.Cuts text before s after →
    isTerminated s = true ∧ after.head?.all isSpace = true
  whole : ∀ r ∈ ranges, ∀ before s after, r.Cuts text before s after → ¬IsBroken s

/-! ## The ranges of a division -/

theorem spansFrom_append (start : Nat) (ps later : List Piece) :
    spansFrom start (ps ++ later) =
      spansFrom start ps ++ spansFrom (start + byteSize (ps.flatMap Piece.source)) later := by
  induction ps generalizing start with
  | nil => rfl
  | cons p ps ih =>
    rw [List.cons_append, spansFrom, spansFrom, ih, List.flatMap_cons, Piece.source,
      byteSize_append, byteSize_append]
    simp only [List.cons_append, Nat.add_assoc]

theorem spansFrom_dropLast (start : Nat) (ps : List Piece) :
    spansFrom start ps.dropLast = (spansFrom start ps).dropLast := by
  rcases List.eq_nil_or_concat ps with rfl | ⟨front, p, rfl⟩
  · rfl
  · rw [List.concat_eq_append, List.dropLast_concat, spansFrom_append, spansFrom, spansFrom,
      List.dropLast_concat]

theorem spansFrom_eq_nil_iff : spansFrom start ps = [] ↔ ps = [] := by
  cases ps <;> simp [spansFrom]

theorem exists_of_mem_spansFrom (h : r ∈ spansFrom start ps) :
    ∃ front p later, ps = front ++ p :: later ∧
      r.start = start + byteSize (front.flatMap Piece.source ++ p.gap) ∧
        r.finish = r.start + byteSize p.sentence := by
  induction ps generalizing start with
  | nil => cases h
  | cons p ps ih =>
    rcases List.mem_cons.mp h with rfl | h
    · exact ⟨[], p, ps, rfl, rfl, rfl⟩
    · obtain ⟨front, q, later, rfl, hStart, hFinish⟩ := ih h
      refine ⟨p :: front, q, later, rfl, ?_, hFinish⟩
      rw [hStart, List.flatMap_cons, Piece.source]
      simp only [byteSize_append, Nat.add_assoc]

namespace Divides

theorem drop {front : List Piece} (h : Divides text (front ++ ps) tail) :
    Divides (ps.flatMap Piece.source ++ tail) ps tail := by
  induction front generalizing text with
  | nil => exact ⟨rfl, h.proper, h.apart, h.blank⟩
  | cons p front ih => exact ih h.tail_divides

theorem cuts {front later : List Piece} (h : Divides text (front ++ p :: later) tail)
    (hStart : r.start = byteSize (front.flatMap Piece.source ++ p.gap))
    (hFinish : r.finish = r.start + byteSize p.sentence) :
    r.Cuts text (front.flatMap Piece.source ++ p.gap) p.sentence
      (later.flatMap Piece.source ++ tail) := by
  refine ⟨?_, hStart, hFinish.trans (by rw [hStart])⟩
  rw [← h.spells]
  simp [Piece.source]

theorem exists_of_mem_spans {more : List Piece} (h : Divides text (ps ++ more) tail)
    (hr : r ∈ spansFrom 0 ps) :
    ∃ front p later, ps = front ++ p :: later ∧
      r.Cuts text (front.flatMap Piece.source ++ p.gap) p.sentence
        ((later ++ more).flatMap Piece.source ++ tail) := by
  obtain ⟨front, p, later, rfl, hStart, hFinish⟩ := exists_of_mem_spansFrom hr
  rw [Nat.zero_add] at hStart
  rw [List.append_assoc] at h
  exact ⟨front, p, later, rfl, h.cuts hStart hFinish⟩

theorem forall₂_spansFrom (front : List Piece) (h : Divides text (front ++ ps) tail) :
    List.Forall₂ (fun r s => ∃ before after, r.Cuts text before s after)
      (spansFrom (byteSize (front.flatMap Piece.source)) ps) (ps.map Piece.sentence) := by
  induction ps generalizing front with
  | nil => exact .nil
  | cons p ps ih =>
    refine .cons ⟨_, _, h.cuts (by rw [byteSize_append]) rfl⟩ ?_
    rw [List.append_cons] at h
    have hLater := ih (front ++ [p]) h
    rwa [List.flatMap_append, List.flatMap_singleton, byteSize_append, Piece.source,
      byteSize_append, ← Nat.add_assoc] at hLater

theorem exists_sentence_of_cuts (h : Divides text ps tail) (hr : r ∈ spansFrom 0 ps)
    (hCuts : r.Cuts text before s after) : ∃ p ∈ ps, s = p.sentence := by
  rw [← List.append_nil ps] at h
  obtain ⟨front, p, later, rfl, hPiece⟩ := h.exists_of_mem_spans hr
  exact ⟨p, by simp, (hCuts.unique hPiece).2.1⟩

theorem pairwise_spansFrom (h : Divides text ps tail) (start : Nat) :
    (spansFrom start ps).Pairwise fun r q => r.start < q.start ∧ r.finish ≤ q.start := by
  induction ps generalizing text start with
  | nil => exact .nil
  | cons p ps ih =>
    rw [spansFrom, List.pairwise_cons]
    refine ⟨?_, ih h.tail_divides _⟩
    intro q hq
    obtain ⟨front, next, later, -, hStart, -⟩ := exists_of_mem_spansFrom hq
    have hPos := byteSize_pos (h.proper p List.mem_cons_self).sentence_ne_nil
    dsimp only
    omega

theorem isSpace_of_misses (h : Divides text ps tail) (start : Nat) {c : Char}
    (hText : text = before ++ c :: after)
    (hMisses : ∀ r ∈ spansFrom start ps, r.Misses (start + byteSize before)) :
    isSpace c = true := by
  induction ps generalizing text before start with
  | nil =>
    have hTail : tail = text := h.spells
    refine List.all_eq_true.mp h.blank c ?_
    rw [hTail, hText]
    exact List.mem_append_right before List.mem_cons_self
  | cons p ps ih =>
    rcases place_append (hText.symm.trans h.eq_append) with ⟨hGap, -⟩ | ⟨seen, rfl, hRest⟩
    · exact List.all_eq_true.mp (h.proper p List.mem_cons_self).gap c hGap
    · rcases place_append hRest.symm with ⟨-, hWithin⟩ | ⟨later, rfl, hLater⟩
      · have hFirst := hMisses _ List.mem_cons_self
        simp only [Span.Misses, byteSize_append] at hFirst
        omega
      · refine ih h.tail_divides (start + byteSize p.gap + byteSize p.sentence) hLater ?_
        intro r hr
        have hLast := hMisses r (List.mem_cons_of_mem _ hr)
        simpa only [byteSize_append, Nat.add_assoc] using hLast

theorem ends_of_cuts (h : Divides text ps tail) (hr : r ∈ spansFrom 0 ps.dropLast)
    (hCuts : r.Cuts text before s after) :
    isTerminated s = true ∧ after.head?.all isSpace = true := by
  rcases List.eq_nil_or_concat ps with rfl | ⟨front, last, rfl⟩
  · cases hr
  · rw [List.concat_eq_append] at h hr
    rw [List.dropLast_concat] at hr
    obtain ⟨front, p, later, rfl, hPiece⟩ := h.exists_of_mem_spans hr
    obtain ⟨-, rfl, rfl⟩ := hCuts.unique hPiece
    rw [List.append_assoc] at h
    exact h.drop.ends (by simp)

theorem segments (h : Divides text ps tail) : Segments text (spansFrom 0 ps) where
  cuts r hr := by
    rw [← List.append_nil ps] at h
    obtain ⟨front, p, later, -, hCuts⟩ := h.exists_of_mem_spans hr
    exact ⟨_, _, _, hCuts⟩
  ordered := h.pairwise_spansFrom 0
  blank before c after hText hMisses := by
    refine h.isSpace_of_misses 0 hText ?_
    rwa [Nat.zero_add]
  edges r hr before s after hCuts := by
    obtain ⟨p, hp, rfl⟩ := h.exists_sentence_of_cuts hr hCuts
    exact ⟨(h.proper p hp).first, (h.proper p hp).last⟩
  ends r hr before s after hCuts := by
    rw [← spansFrom_dropLast] at hr
    exact h.ends_of_cuts hr hCuts
  whole r hr before s after hCuts := by
    obtain ⟨p, hp, rfl⟩ := h.exists_sentence_of_cuts hr hCuts
    exact (h.proper p hp).whole

end Divides

/-! ## The division of given ranges -/

namespace Segments

/-- Between a place behind the earlier ranges and the next range there is only white space. -/
theorem all_isSpace_gap {gap : List Char} (h : Segments text (done ++ r :: ranges))
    (hText : text = before ++ (gap ++ after)) (hDone : ∀ q ∈ done, q.finish ≤ byteSize before)
    (hStart : r.start = byteSize (before ++ gap)) : gap.all isSpace = true := by
  refine List.all_eq_true.mpr fun c hc => ?_
  obtain ⟨front, rest, rfl⟩ := List.append_of_mem hc
  have hLater := (List.pairwise_cons.mp (List.pairwise_append.mp h.ordered).2.1).1
  have hPlace : byteSize (before ++ front) < r.start := by
    have hPos := byteSize_pos (List.cons_ne_nil c rest)
    simp only [hStart, byteSize_append]
    omega
  refine h.blank (before ++ front) c (rest ++ after) (by rw [hText]; simp) fun q hq => ?_
  rcases List.mem_append.mp hq with hq | hq
  · have hFinish := hDone q hq
    rw [byteSize_append]
    exact .inr (hFinish.trans (Nat.le_add_right _ _))
  · rcases List.mem_cons.mp hq with rfl | hq
    · exact .inl hPlace
    · exact .inl (hPlace.trans (hLater q hq).1)

-- By induction on the ranges. Those `done` have been read, and `front` is the text up to the end of
-- the last of them; the next range is a sentence, and what lies before it is a gap.
theorem exists_divides (done : List Span) (front : List Char) {todo : List Char}
    (h : Segments text (done ++ ranges))
    (hText : text = front ++ todo) (hDone : ∀ q ∈ done, q.finish ≤ byteSize front)
    (hTodo : ∀ q ∈ ranges, byteSize front ≤ q.start) :
    ∃ ps tail, Divides todo ps tail ∧ spansFrom (byteSize front) ps = ranges := by
  induction ranges generalizing done front todo with
  | nil =>
    refine ⟨[], todo, .nil (List.all_eq_true.mpr fun c hc => ?_), rfl⟩
    obtain ⟨before, after, rfl⟩ := List.append_of_mem hc
    refine h.blank (front ++ before) c after (by rw [hText, List.append_assoc]) fun q hq => ?_
    have hFinish := hDone q (by rwa [List.append_nil] at hq)
    rw [byteSize_append]
    exact .inr (hFinish.trans (Nat.le_add_right _ _))
  | cons r ranges ih =>
    have hMem : r ∈ done ++ r :: ranges := by simp
    obtain ⟨before, s, after, hCuts⟩ := h.cuts r hMem
    obtain ⟨gap, rfl⟩ : front <+: before := by
      refine prefix_of_byteSize_le (hText.symm.trans hCuts.spells) ?_
      rw [← hCuts.start]
      exact hTodo r List.mem_cons_self
    obtain rfl : todo = gap ++ (s ++ after) := by
      have hSame := hText.symm.trans hCuts.spells
      rwa [List.append_assoc, List.append_cancel_left_eq] at hSame
    have hGap := h.all_isSpace_gap hText hDone hCuts.start
    obtain ⟨hFirst, hLast⟩ := h.edges r hMem _ s after hCuts
    have hProper : Piece.IsProper ⟨gap, s⟩ := ⟨hGap, hFirst, hLast, h.whole r hMem _ s after hCuts⟩
    have hLater := (List.pairwise_cons.mp (List.pairwise_append.mp h.ordered).2.1).1
    have hFinish : r.finish = byteSize (front ++ gap ++ s) := by
      rw [hCuts.finish, byteSize_append (front ++ gap)]
    have hRest : text = front ++ gap ++ s ++ after := by rw [hCuts.spells, List.append_assoc _ s]
    have hPassed : ∀ q ∈ done ++ [r], q.finish ≤ byteSize (front ++ gap ++ s) := by
      intro q hq
      rcases List.mem_append.mp hq with hq | hq
      · have hEarly := hDone q hq
        simp only [byteSize_append]
        omega
      · rw [List.mem_singleton.mp hq, hFinish]
    obtain ⟨ps, tail, hDivides, rfl⟩ := ih (done ++ [r]) (front ++ gap ++ s)
      (by rwa [List.append_cons] at h) hRest hPassed fun q hq => hFinish ▸ (hLater q hq).2
    refine ⟨⟨gap, s⟩ :: ps, tail, ?_, ?_⟩
    · rw [← List.append_assoc]
      refine hDivides.cons hProper fun hMore => h.ends r ?_ _ s after hCuts
      rw [List.dropLast_append_of_ne_nil (List.cons_ne_nil r _),
        List.dropLast_cons_of_ne_nil (mt spansFrom_eq_nil_iff.mp hMore)]
      simp
    · rw [spansFrom, ← byteSize_append, ← byteSize_append, ← hFinish, ← hCuts.start]

theorem eq_spans (h : Segments text ranges) : ranges = spans text := by
  obtain ⟨ps, tail, hDivides, hSpans⟩ :=
    exists_divides [] [] h rfl (fun q hq => absurd hq List.not_mem_nil)
      fun q _ => Nat.zero_le q.start
  rw [← hSpans, spans, hDivides.pieces_eq]
  rfl

end Segments

/-! ## The end of the text -/

/-- White space in front of a sentence keeps apart from it what comes earlier. -/
theorem isTerminated_append_left (h : before.getLast?.all isSpace = true) :
    isTerminated (before ++ s) = isTerminated s := by
  have hLast : ∀ p : Char → Bool, (∀ c, isSpace c = true → p c = false) →
      before.getLast?.any p = false := by
    intro p hp
    cases hCase : before.getLast? with
    | none => rfl
    | some c =>
      rw [hCase] at h
      exact hp c h
  rw [isTerminated, isTerminated, dropEndWhile_append]
  by_cases hs : dropEndWhile isCloser s = []
  · have hClosers : before.getLast?.any isCloser = false := by
      refine hLast isCloser fun c hc => Bool.eq_false_iff.mpr fun hCloser => ?_
      rw [isSpace_eq_false_of_isCloser hCloser] at hc
      cases hc
    rw [if_pos hs, hs, dropEndWhile_eq_self hClosers]
    refine hLast isTerminator fun c hc => Bool.eq_false_iff.mpr fun hMark => ?_
    rw [isSpace_eq_false_of_isTerminator hMark] at hc
    cases hc
  · rw [if_neg hs, List.getLast?_append_of_ne_nil _ hs]

namespace Divides

theorem all_getLast?_before {front later : List Piece}
    (h : Divides text (front ++ p :: later) tail) :
    (front.flatMap Piece.source ++ p.gap).getLast?.all isSpace = true := by
  by_cases hGap : p.gap = []
  · rcases List.eq_nil_or_concat front with rfl | ⟨front, q, rfl⟩
    · rw [hGap]
      rfl
    · rw [List.concat_eq_append, List.append_assoc] at h
      have hNext := (List.isChain_cons_cons.mp h.drop.apart).1.2
      exact absurd hGap hNext
  · rw [List.getLast?_append_of_ne_nil _ hGap, Option.all_eq_true]
    intro c hc
    exact List.all_eq_true.mp (h.proper p (by simp)).gap c (List.mem_of_getLast? hc)

theorem isTerminated_of_last {front : List Piece} (h : Divides text (front ++ [p]) tail) :
    isTerminated p.sentence = isTerminated (trim text) := by
  have hp := h.proper p (by simp)
  have hText : text = front.flatMap Piece.source ++ p.gap ++ (p.sentence ++ tail) := by
    rw [← h.spells]
    simp [Piece.source]
  have hBefore := h.all_getLast?_before
  generalize front.flatMap Piece.source ++ p.gap = before at hText hBefore
  rw [hText, trim_append_of_visible h.blank hp.first hp.last, isTerminated_append_left]
  have hSplit := List.takeWhile_append_dropWhile (p := isSpace) (l := before)
  by_cases hNil : before.dropWhile isSpace = []
  · rw [hNil]
    rfl
  · rwa [← hSplit, List.getLast?_append_of_ne_nil _ hNil] at hBefore

theorem isTerminated_of_getLast? (h : Divides text ps tail)
    (hr : (spansFrom 0 ps).getLast? = some r) (hCuts : r.Cuts text before s after) :
    isTerminated s = isTerminated (trim text) := by
  rcases List.eq_nil_or_concat ps with rfl | ⟨front, p, rfl⟩
  · cases hr
  · rw [List.concat_eq_append] at h hr
    rw [spansFrom_append, spansFrom, spansFrom, List.getLast?_concat, Nat.zero_add] at hr
    have hPiece := h.cuts (r := r) (by cases hr; simp) (by cases hr; simp)
    rw [(hCuts.unique hPiece).2.1]
    exact h.isTerminated_of_last

end Divides

/-- The ranges of the sentences are the only ones that segment the text; they hold the sentences, and
the last of these is terminated exactly if the text is. -/
theorem segments_iff_eq_spans (text : List Char) :
    (∀ ranges, Segments text ranges ↔ ranges = spans text) ∧
      List.Forall₂ (fun r s => ∃ before after, r.Cuts text before s after) (spans text)
        (sentences text) ∧
      ∀ r before s after, (spans text).getLast? = some r → r.Cuts text before s after →
        isTerminated s = isTerminated (trim text) := by
  obtain ⟨tail, hDivides⟩ := divides_pieces text
  refine ⟨fun ranges => ⟨fun h => h.eq_spans, ?_⟩, ?_, ?_⟩
  · rintro rfl
    exact hDivides.segments
  · exact hDivides.forall₂_spansFrom []
  · intro r before s after hLast hCuts
    exact hDivides.isTerminated_of_getLast? hLast hCuts

end Household.Reply
