import Mathlib.Data.List.Chain
import Household.Proofs.Reply.Sentences
import Household.Proofs.Text.Trimming

/-! # How a text divides into sentences

A sentence ends after a terminator and the marks that may follow it, where white space comes next. A
text divides in one way only into sentences that hold no such end within, all but the last of them
terminated, with white space between them and around them.
-/

set_option autoImplicit false

namespace Household.Reply

open Household.Text

variable {s r s' r' seen text sentence rest tail tail' : List Char} {p : Piece}
  {ps ps' : List Piece}

/-! ## Ends of sentences -/

/-- A terminator, terminators and closing marks after it, and then white space. -/
def IsBroken (s : List Char) : Prop :=
  ∃ before mark run gap after, s = before ++ mark :: (run ++ gap :: after) ∧
    isTerminator mark = true ∧ (∀ c ∈ run, isTerminator c = true ∨ isCloser c = true) ∧
      isSpace gap = true

theorem isCloser_eq_false_of_isTerminator {c : Char} (h : isTerminator c = true) :
    isCloser c = false := by
  simp only [isTerminator, Bool.or_eq_true, decide_eq_true_eq] at h
  rcases h with (rfl | rfl) | rfl <;> decide

theorem isSpace_eq_false_of_isCloser {c : Char} (h : isCloser c = true) : isSpace c = false := by
  simp only [isCloser, Bool.or_eq_true, decide_eq_true_eq] at h
  rcases h with ((((rfl | rfl) | rfl) | rfl) | rfl) | rfl <;> decide

theorem isTerminated_concat (s : List Char) (c : Char) :
    isTerminated (s ++ [c]) = (isTerminator c || (isTerminated s && isCloser c)) := by
  rw [isTerminated, dropEndWhile_append, isTerminated]
  by_cases hc : isCloser c = true
  · have hMark : isTerminator c = false := by
      cases hMark : isTerminator c with
      | false => rfl
      | true =>
        rw [isCloser_eq_false_of_isTerminator hMark] at hc
        cases hc
    simp [dropEndWhile, hc, hMark]
  · simp [dropEndWhile, hc]

theorem isTerminated_append {run : List Char} (h : isTerminated s = true)
    (hRun : ∀ c ∈ run, isTerminator c = true ∨ isCloser c = true) :
    isTerminated (s ++ run) = true := by
  induction run generalizing s with
  | nil => rwa [List.append_nil]
  | cons c run ih =>
    rw [List.append_cons]
    refine ih ?_ fun d hd => hRun d (List.mem_cons_of_mem _ hd)
    rw [isTerminated_concat, h]
    simpa using hRun c List.mem_cons_self

theorem isTerminated_iff :
    isTerminated s = true ↔ ∃ before mark run, s = before ++ mark :: run ∧
      isTerminator mark = true ∧ ∀ c ∈ run, isTerminator c = true ∨ isCloser c = true := by
  constructor
  · intro h
    obtain ⟨run, hs, hRun⟩ := exists_append_dropEndWhile isCloser s
    rw [isTerminated] at h
    obtain ⟨mark, hLast, hMark⟩ := (Option.any_eq_true _ _).mp h
    obtain ⟨before, hBefore⟩ := List.getLast?_eq_some_iff.mp hLast
    refine ⟨before, mark, run, ?_, hMark, fun c hc => .inr (List.all_eq_true.mp hRun c hc)⟩
    rw [hs, hBefore, List.append_assoc, List.singleton_append]
  · rintro ⟨before, mark, run, rfl, hMark, hRun⟩
    rw [List.append_cons]
    refine isTerminated_append ?_ hRun
    rw [isTerminated_concat, hMark, Bool.true_or]

theorem isBroken_iff :
    IsBroken s ↔ ∃ front gap after, s = front ++ gap :: after ∧ isTerminated front = true ∧
      isSpace gap = true := by
  constructor
  · rintro ⟨before, mark, run, gap, after, rfl, hMark, hRun, hGap⟩
    refine ⟨before ++ mark :: run, gap, after, by simp, ?_, hGap⟩
    exact isTerminated_iff.mpr ⟨before, mark, run, rfl, hMark, hRun⟩
  · rintro ⟨front, gap, after, rfl, hFront, hGap⟩
    obtain ⟨before, mark, run, rfl, hMark, hRun⟩ := isTerminated_iff.mp hFront
    exact ⟨before, mark, run, gap, after, by simp, hMark, hRun, hGap⟩

theorem any_getLast?_of_isTerminated (h : isTerminated s = true) :
    s.getLast?.any (!isSpace ·) = true := by
  rcases List.eq_nil_or_concat s with rfl | ⟨front, c, rfl⟩
  · cases h
  · rw [List.concat_eq_append, isTerminated_concat] at h
    have hc : isSpace c = false := by
      rcases Bool.or_eq_true_iff.mp h with hMark | hCloser
      · exact isSpace_eq_false_of_isTerminator hMark
      · exact isSpace_eq_false_of_isCloser (Bool.and_eq_true_iff.mp hCloser).2
    simp [hc]

theorem IsBroken.append (h : IsBroken s) (t : List Char) : IsBroken (s ++ t) := by
  obtain ⟨before, mark, run, gap, after, rfl, hMark, hRun, hGap⟩ := h
  exact ⟨before, mark, run, gap, after ++ t, by simp, hMark, hRun, hGap⟩

/-! ## The first sentence -/

/-- What is read after `seen` holds no end of a sentence. -/
def UnbrokenAfter (seen s : List Char) : Prop :=
  ∀ front gap after, s = front ++ gap :: after → isTerminated (seen ++ front) = true →
    isSpace gap = false

theorem unbrokenAfter_nil (seen : List Char) : UnbrokenAfter seen [] := by
  intro front gap after h
  simp at h

theorem UnbrokenAfter.cons {c : Char} (hc : isTerminated seen = true → isSpace c = false)
    (h : UnbrokenAfter (seen ++ [c]) s) : UnbrokenAfter seen (c :: s) := by
  intro front gap after hSplit hFront
  cases front with
  | nil =>
    obtain ⟨rfl, -⟩ := List.cons.inj hSplit
    exact hc (by rwa [List.append_nil] at hFront)
  | cons d front =>
    rw [List.cons_append] at hSplit
    obtain ⟨rfl, hRest⟩ := List.cons.inj hSplit
    exact h front gap after hRest (by rwa [List.append_cons] at hFront)

theorem not_isBroken_of_unbrokenAfter (h : UnbrokenAfter [] s) : ¬IsBroken s := by
  intro hBroken
  obtain ⟨front, gap, after, hSplit, hFront, hGap⟩ := isBroken_iff.mp hBroken
  rw [h front gap after hSplit hFront] at hGap
  cases hGap

-- Both lemmas are by induction on what is read after `seen`, which moves over to `seen`.

theorem unbrokenAfter_of_cut?_eq_some (seen : List Char)
    (h : cut? (isTerminated seen) text = some (sentence, rest)) :
    isTerminated (seen ++ sentence) = true ∧ UnbrokenAfter seen sentence := by
  induction text generalizing seen sentence with
  | nil =>
    rw [cut?] at h
    split at h
    · rename_i hEnded
      cases h
      exact ⟨by rwa [List.append_nil], unbrokenAfter_nil seen⟩
    · cases h
  | cons c text ih =>
    rw [cut?, ← isTerminated_concat] at h
    split at h
    · rename_i hEnd
      cases h
      rw [List.append_nil]
      exact ⟨(Bool.and_eq_true_iff.mp hEnd).1, unbrokenAfter_nil seen⟩
    · rename_i hOn
      obtain ⟨⟨front, back⟩, hCut, hSplit⟩ := Option.map_eq_some_iff.mp h
      cases hSplit
      obtain ⟨hTerminated, hUnbroken⟩ := ih (seen ++ [c]) hCut
      refine ⟨by rwa [List.append_cons], hUnbroken.cons fun hSeen => ?_⟩
      simpa [hSeen] using hOn

theorem unbrokenAfter_of_cut?_eq_none (seen : List Char)
    (h : cut? (isTerminated seen) text = none) :
    UnbrokenAfter seen text := by
  induction text generalizing seen with
  | nil => exact unbrokenAfter_nil seen
  | cons c text ih =>
    rw [cut?, ← isTerminated_concat] at h
    split at h
    · cases h
    · rename_i hOn
      refine (ih (seen ++ [c]) (Option.map_eq_none_iff.mp h)).cons fun hSeen => ?_
      simpa [hSeen] using hOn

/-! ## Divisions -/

/-- A sentence with nothing but white space before it. -/
structure Piece.IsProper (p : Piece) : Prop where
  gap : p.gap.all isSpace = true
  first : p.sentence.head?.any (!isSpace ·) = true
  last : p.sentence.getLast?.any (!isSpace ·) = true
  whole : ¬IsBroken p.sentence

/-- The text consists of the sentences and the white space before each of them and at the end. -/
structure Divides (text : List Char) (ps : List Piece) (tail : List Char) : Prop where
  spells : ps.flatMap Piece.source ++ tail = text
  proper : ∀ p ∈ ps, p.IsProper
  apart : ps.IsChain fun p q => isTerminated p.sentence = true ∧ q.gap ≠ []
  blank : tail.all isSpace = true

theorem Piece.IsProper.sentence_ne_nil (h : p.IsProper) : p.sentence ≠ [] := by
  intro hNil
  have hFirst := h.first
  rw [hNil] at hFirst
  cases hFirst

/-- The white space in front of a sentence ends where the sentence begins. -/
theorem Piece.IsProper.takeWhile_append (h : p.IsProper) (rest : List Char) :
    (p.gap ++ (p.sentence ++ rest)).takeWhile isSpace = p.gap := by
  have hFirst := h.first
  rw [List.takeWhile_append_of_pos (List.all_eq_true.mp h.gap)]
  cases hSentence : p.sentence with
  | nil => exact absurd hSentence h.sentence_ne_nil
  | cons c later =>
    rw [hSentence] at hFirst
    rw [List.cons_append, List.takeWhile_cons_of_neg (by simpa using hFirst), List.append_nil]

namespace Divides

theorem nil (h : text.all isSpace = true) : Divides text [] text :=
  ⟨rfl, fun _ hp => absurd hp List.not_mem_nil, .nil, h⟩

/-- A later part of a text begins with white space only if its first sentence has some before it. -/
theorem gap_ne_nil (h : Divides text (p :: ps) tail) (hText : text.head?.all isSpace = true) :
    p.gap ≠ [] := by
  intro hGap
  have hFirst := (h.proper p List.mem_cons_self).first
  rw [← h.spells, List.flatMap_cons, Piece.source, hGap] at hText
  cases hSentence : p.sentence with
  | nil =>
    rw [hSentence] at hFirst
    cases hFirst
  | cons c later =>
    rw [hSentence] at hFirst hText
    simp_all

theorem cons (hp : p.IsProper)
    (hEnd : ps ≠ [] → isTerminated p.sentence = true ∧ text.head?.all isSpace = true)
    (h : Divides text ps tail) : Divides (p.source ++ text) (p :: ps) tail where
  spells := by rw [List.flatMap_cons, List.append_assoc, h.spells]
  proper q hq := by
    rcases List.mem_cons.mp hq with rfl | hq
    · exact hp
    · exact h.proper q hq
  apart := by
    cases ps with
    | nil => exact .singleton p
    | cons q ps =>
      obtain ⟨hTerminated, hText⟩ := hEnd (List.cons_ne_nil q ps)
      exact .cons_cons ⟨hTerminated, h.gap_ne_nil hText⟩ h.apart
  blank := h.blank

theorem tail_divides (h : Divides text (p :: ps) tail) :
    Divides (ps.flatMap Piece.source ++ tail) ps tail :=
  ⟨rfl, fun q hq => h.proper q (List.mem_cons_of_mem p hq), h.apart.of_cons, h.blank⟩

theorem eq_append (h : Divides text (p :: ps) tail) :
    text = p.gap ++ (p.sentence ++ (ps.flatMap Piece.source ++ tail)) := by
  rw [← h.spells, List.flatMap_cons, Piece.source, List.append_assoc, List.append_assoc]

theorem not_blank (h : Divides text (p :: ps) tail) : ¬text.all isSpace = true := by
  intro hBlank
  obtain ⟨c, hc, hSpace⟩ := (Option.any_eq_true _ _).mp (h.proper p List.mem_cons_self).first
  have hMem : c ∈ text := by
    rw [h.eq_append]
    simp [List.mem_of_mem_head? hc]
  rw [List.all_eq_true.mp hBlank c hMem] at hSpace
  cases hSpace

theorem ends (h : Divides text (p :: ps) tail) (hMore : ps ≠ []) :
    isTerminated p.sentence = true ∧
      (ps.flatMap Piece.source ++ tail).head?.all isSpace = true := by
  cases ps with
  | nil => exact absurd rfl hMore
  | cons q ps =>
    obtain ⟨⟨hEnd, hGap⟩, -⟩ := List.isChain_cons_cons.mp h.apart
    refine ⟨hEnd, ?_⟩
    have hBlank := (h.proper q (List.mem_cons_of_mem p List.mem_cons_self)).gap
    rw [List.flatMap_cons, Piece.source]
    cases hq : q.gap with
    | nil => exact absurd hq hGap
    | cons c gap =>
      rw [hq] at hBlank
      exact (Bool.and_eq_true_iff.mp hBlank).1

theorem closes (h : Divides text (p :: ps) tail) :
    (ps.flatMap Piece.source ++ tail).all isSpace = true ∨
      isTerminated p.sentence = true ∧
        (ps.flatMap Piece.source ++ tail).head?.all isSpace = true := by
  by_cases hMore : ps = []
  · subst hMore
    exact .inl h.blank
  · exact .inr (h.ends hMore)

end Divides

/-! ## There is one division -/

/-- A sentence does not go on beyond a place where another one ends. -/
theorem length_le_of_closes (h : s ++ r = s' ++ r')
    (hCloses : r.all isSpace = true ∨ isTerminated s = true ∧ r.head?.all isSpace = true)
    (hLast : s'.getLast?.any (!isSpace ·) = true) (hWhole : ¬IsBroken s') :
    s'.length ≤ s.length := by
  by_contra hLong
  obtain ⟨more, rfl⟩ : s <+: s' :=
    List.prefix_of_prefix_length_le (List.prefix_append s r) (h ▸ List.prefix_append s' r')
      (by omega)
  rw [List.append_assoc, List.append_cancel_left_eq] at h
  cases more with
  | nil => simp at hLong
  | cons gap more =>
    rcases hCloses with hBlank | ⟨hEnd, hHead⟩
    · have hMore : ∀ c ∈ gap :: more, isSpace c = true := fun c hc =>
        List.all_eq_true.mp hBlank c (h ▸ List.mem_append_left r' hc)
      rw [List.getLast?_append_of_ne_nil _ (List.cons_ne_nil gap more)] at hLast
      obtain ⟨c, hc, hSpace⟩ := (Option.any_eq_true _ _).mp hLast
      rw [hMore c (List.mem_of_getLast? hc)] at hSpace
      cases hSpace
    · refine hWhole (isBroken_iff.mpr ⟨s, gap, more, rfl, hEnd, ?_⟩)
      rw [h] at hHead
      exact hHead

theorem Divides.unique (h : Divides text ps tail) (h' : Divides text ps' tail') :
    ps = ps' ∧ tail = tail' := by
  induction ps generalizing text ps' with
  | nil =>
    have hText : tail = text := h.spells
    cases ps' with
    | nil => exact ⟨rfl, hText.trans h'.spells.symm⟩
    | cons q ps' => exact absurd (hText ▸ h.blank) h'.not_blank
  | cons p ps ih =>
    cases ps' with
    | nil =>
      have hText : tail' = text := h'.spells
      exact absurd (hText ▸ h'.blank) h.not_blank
    | cons q ps' =>
      have hp := h.proper p List.mem_cons_self
      have hq := h'.proper q List.mem_cons_self
      -- The gaps agree because a sentence begins with something visible. Then neither of the
      -- sentences is longer, because no sentence goes on where the other one ends.
      have hSame := h.eq_append.symm.trans h'.eq_append
      have hGap : p.gap = q.gap := by
        have hTake := congrArg (List.takeWhile isSpace) hSame
        rwa [hp.takeWhile_append, hq.takeWhile_append] at hTake
      rw [hGap, List.append_cancel_left_eq] at hSame
      have hLength : p.sentence.length = q.sentence.length :=
        Nat.le_antisymm (length_le_of_closes hSame.symm h'.closes hp.last hp.whole)
          (length_le_of_closes hSame h.closes hq.last hq.whole)
      obtain ⟨hSentence, hRest⟩ := List.append_inj hSame hLength
      have hPiece : p = q := by
        cases p
        cases q
        simp_all
      have hLater := ih (h.tail_divides) (hRest ▸ h'.tail_divides)
      exact ⟨by rw [hPiece, hLater.1], hLater.2⟩

/-! ## The sentences of a text are that division -/

theorem isProper_trimEnd {gap body : List Char} (hGap : gap.all isSpace = true)
    (hFirst : body.head?.any (!isSpace ·) = true) (hWhole : ¬IsBroken body) :
    Piece.IsProper ⟨gap, trimEnd body⟩ := by
  obtain ⟨blank, hBody, hBlank⟩ : ∃ blank, body = trimEnd body ++ blank ∧ blank.all isSpace = true :=
    exists_append_dropEndWhile isSpace body
  have hNonempty : trimEnd body ≠ [] := by
    intro hNil
    obtain ⟨c, hc, hSpace⟩ := (Option.any_eq_true _ _).mp hFirst
    rw [hNil, List.nil_append] at hBody
    rw [List.all_eq_true.mp hBlank c (hBody ▸ List.mem_of_mem_head? hc)] at hSpace
    cases hSpace
  refine ⟨hGap, ?_, any_getLast?_trimEnd hNonempty, ?_⟩
  · rwa [hBody, List.head?_append_of_ne_nil _ hNonempty] at hFirst
  · intro hBroken
    exact hWhole (hBody ▸ hBroken.append blank)

theorem divides_piecesFrom {fuel : Nat} (hFuel : text.length < fuel) :
    Divides text (piecesFrom fuel text).1 (piecesFrom fuel text).2 := by
  induction fuel generalizing text with
  | zero => omega
  | succ fuel ih =>
    have hText := List.takeWhile_append_dropWhile (p := isSpace) (l := text)
    have hGap : (text.takeWhile isSpace).all isSpace = true := List.all_takeWhile
    have hFirst := any_head?_dropWhile_isSpace text
    rw [piecesFrom]
    dsimp only
    generalize text.takeWhile isSpace = gap at hText hGap
    generalize text.dropWhile isSpace = body at hText hFirst
    subst hText
    split
    · rw [List.append_nil]
      exact .nil hGap
    · rename_i hBody
      have hFirst := hFirst hBody
      split
      · rename_i sentence rest hCut
        obtain ⟨rfl, hSpace⟩ := cut?_eq_some hCut
        obtain ⟨hEnd, hUnbroken⟩ := unbrokenAfter_of_cut?_eq_some [] hCut
        rw [List.nil_append] at hEnd
        have hNonempty : sentence ≠ [] := by
          rintro rfl
          cases hEnd
        have hShort : rest.length < fuel := by
          have hPos := List.length_pos_of_ne_nil hNonempty
          simp only [List.length_append] at hFuel
          omega
        rw [List.head?_append_of_ne_nil _ hNonempty] at hFirst
        have hProper : Piece.IsProper ⟨gap, sentence⟩ :=
          ⟨hGap, hFirst, any_getLast?_of_isTerminated hEnd, not_isBroken_of_unbrokenAfter hUnbroken⟩
        rw [← List.append_assoc]
        exact .cons hProper (fun _ => ⟨hEnd, hSpace⟩) (ih hShort)
      · rename_i hCut
        have hUnbroken := unbrokenAfter_of_cut?_eq_none [] hCut
        have hProper := isProper_trimEnd hGap hFirst (not_isBroken_of_unbrokenAfter hUnbroken)
        have hText : gap ++ body = gap ++ trimEnd body ++ body.drop (trimEnd body).length := by
          rw [List.append_assoc, trimEnd, dropEndWhile_append_drop]
        rw [hText]
        exact .cons hProper (absurd rfl) (.nil (all_drop_dropEndWhile isSpace body))

theorem divides_pieces (text : List Char) :
    ∃ tail, Divides text (pieces text) tail :=
  ⟨_, divides_piecesFrom (Nat.lt_succ_self text.length)⟩

theorem Divides.pieces_eq (h : Divides text ps tail) : pieces text = ps :=
  ((divides_piecesFrom (Nat.lt_succ_self text.length)).unique h).1

end Household.Reply
