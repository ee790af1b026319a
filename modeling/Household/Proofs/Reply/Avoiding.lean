import Household.Proofs.Reply.Dividing
import Household.Proofs.Reply.Passes

/-! # Sentences that are avoided

Of the sentences of a text, exactly those that mention no avoided concept are kept. The text that
is left divides into them again: no two of them run together and none comes apart. Neighbours keep
the gap between them, others are joined by the first of the gaps with the most line breaks.
-/

set_option autoImplicit false

namespace Household.Reply

open Household.Text

variable {text s : List Char} {keep : List Char → Bool} {gap : List Char} {gaps : List (List Char)}
  {p q : Piece} {ps before dropped after : List Piece} {passed : Option (List (List Char))}

/-! ## The widest gap -/

/-- The first of the gaps that have the most line breaks. -/
def IsWidest (gap : List Char) (gaps : List (List Char)) : Prop :=
  ∃ front later, gaps = front ++ gap :: later ∧
    (∀ g ∈ front, lineBreaks g < lineBreaks gap) ∧ ∀ g ∈ later, lineBreaks g ≤ lineBreaks gap

theorem IsWidest.le (h : IsWidest gap gaps) : ∀ g ∈ gaps, lineBreaks g ≤ lineBreaks gap := by
  obtain ⟨front, later, rfl, hFront, hLater⟩ := h
  intro g hg
  rcases List.mem_append.mp hg with hg | hg
  · exact (hFront g hg).le
  · rcases List.mem_cons.mp hg with rfl | hg
    · exact le_rfl
    · exact hLater g hg

theorem IsWidest.mem (h : IsWidest gap gaps) : gap ∈ gaps := by
  obtain ⟨front, later, rfl, -⟩ := h
  simp

theorem IsWidest.cons_of_lt {first : List Char} (h : IsWidest gap gaps)
    (hFirst : lineBreaks first < lineBreaks gap) : IsWidest gap (first :: gaps) := by
  obtain ⟨front, later, rfl, hFront, hLater⟩ := h
  exact ⟨first :: front, later, rfl, List.forall_mem_cons.mpr ⟨hFirst, hFront⟩, hLater⟩

/-- A gap that is not wider than the one before it makes no difference. -/
theorem IsWidest.cons_cons_of_le {first next : List Char} (h : IsWidest gap (first :: gaps))
    (hNext : lineBreaks next ≤ lineBreaks first) : IsWidest gap (first :: next :: gaps) := by
  obtain ⟨front, later, hSplit, hFront, hLater⟩ := h
  cases front with
  | nil =>
    obtain ⟨rfl, rfl⟩ := List.cons.inj hSplit
    exact ⟨[], next :: gaps, rfl, hFront, List.forall_mem_cons.mpr ⟨hNext, hLater⟩⟩
  | cons g front =>
    obtain ⟨rfl, rfl⟩ := List.cons.inj hSplit
    obtain ⟨hFirst, hFront⟩ := List.forall_mem_cons.mp hFront
    refine ⟨first :: next :: front, later, rfl, ?_, hLater⟩
    exact List.forall_mem_cons.mpr ⟨hFirst, List.forall_mem_cons.mpr ⟨by omega, hFront⟩⟩

theorem isWidest_widest (h : gaps ≠ []) : IsWidest (widest gaps) gaps := by
  obtain ⟨gap, gaps, rfl⟩ := List.exists_cons_of_ne_nil h
  rw [widest]
  induction gaps generalizing gap with
  | nil => exact ⟨[], [], rfl, by simp, by simp⟩
  | cons next gaps ih =>
    rw [List.foldl_cons]
    split
    · rename_i hWider
      have hNext := ih next (List.cons_ne_nil next gaps)
      exact hNext.cons_of_lt (hWider.trans_le (hNext.le next List.mem_cons_self))
    · rename_i hNarrow
      exact (ih gap (List.cons_ne_nil gap gaps)).cons_cons_of_le (Nat.le_of_not_lt hNarrow)

/-! ## The sentences that are kept -/

/-- The kept sentences with the gaps that join them; `passed` are the gaps since the last one. -/
def rejoin (keep : List Char → Bool) : Option (List (List Char)) → List Piece → List Piece
  | _, [] => []
  | passed, p :: rest =>
    let passed := passed.map (· ++ [p.gap])
    if keep p.sentence then ⟨(passed.map widest).getD [], p.sentence⟩ :: rejoin keep (some []) rest
    else rejoin keep passed rest

theorem rejoin_of_kept (hp : keep p.sentence = true) (passed : Option (List (List Char)))
    (ps : List Piece) :
    rejoin keep passed (p :: ps) =
      ⟨((passed.map (· ++ [p.gap])).map widest).getD [], p.sentence⟩ ::
        rejoin keep (some []) ps := by
  simp only [rejoin, if_pos hp]

theorem rejoin_of_dropped (hp : keep p.sentence = false) (passed : Option (List (List Char)))
    (ps : List Piece) :
    rejoin keep passed (p :: ps) = rejoin keep (passed.map (· ++ [p.gap])) ps := by
  simp only [rejoin, hp, Bool.false_eq_true, if_false]

theorem joinKept_eq (keep : List Char → Bool) (passed : Option (List (List Char)))
    (ps : List Piece) : joinKept keep passed ps = (rejoin keep passed ps).flatMap Piece.source := by
  induction ps generalizing passed with
  | nil => cases passed <;> rfl
  | cons p ps ih =>
    cases hp : keep p.sentence with
    | true =>
      rw [rejoin_of_kept hp, List.flatMap_cons, ← ih]
      cases passed <;> simp [joinKept, hp, Piece.source]
    | false =>
      rw [rejoin_of_dropped hp, ← ih]
      cases passed <;> simp [joinKept, hp]

theorem map_sentence_rejoin (keep : List Char → Bool) (passed : Option (List (List Char)))
    (ps : List Piece) :
    (rejoin keep passed ps).map Piece.sentence = (ps.map Piece.sentence).filter keep := by
  induction ps generalizing passed with
  | nil => rfl
  | cons p ps ih =>
    cases hp : keep p.sentence with
    | true => rw [rejoin_of_kept hp, List.map_cons, ih, List.map_cons, List.filter_cons_of_pos hp]
    | false =>
      rw [rejoin_of_dropped hp, ih, List.map_cons, List.filter_cons_of_neg (by simp [hp])]

theorem length_rejoin (keep : List Char → Bool) (passed : Option (List (List Char)))
    (ps : List Piece) :
    (rejoin keep passed ps).length = (ps.filter fun p => keep p.sentence).length := by
  rw [← List.length_map Piece.sentence, map_sentence_rejoin, List.filter_map, List.length_map]
  rfl

/-- Where a sentence is kept, the gaps passed so far are spent. -/
theorem exists_rejoin_append (hp : keep p.sentence = true) (passed : Option (List (List Char)))
    (before : List Piece) :
    ∃ g, ∀ after, rejoin keep passed (before ++ p :: after) =
      rejoin keep passed before ++ ⟨g, p.sentence⟩ :: rejoin keep (some []) after := by
  induction before generalizing passed with
  | nil => exact ⟨_, fun after => rejoin_of_kept hp passed after⟩
  | cons q before ih =>
    cases hq : keep q.sentence with
    | true =>
      obtain ⟨g, hLater⟩ := ih (some [])
      refine ⟨g, fun after => ?_⟩
      rw [List.cons_append, rejoin_of_kept hq, hLater, rejoin_of_kept hq, List.cons_append]
    | false =>
      obtain ⟨g, hLater⟩ := ih (passed.map (· ++ [q.gap]))
      refine ⟨g, fun after => ?_⟩
      rw [List.cons_append, rejoin_of_dropped hq, hLater, rejoin_of_dropped hq]

theorem rejoin_dropped_append (hDropped : ∀ d ∈ dropped, keep d.sentence = false)
    (hq : keep q.sentence = true) (gaps : List (List Char)) (after : List Piece) :
    rejoin keep (some gaps) (dropped ++ q :: after) =
      ⟨widest (gaps ++ (dropped ++ [q]).map Piece.gap), q.sentence⟩ ::
        rejoin keep (some []) after := by
  induction dropped generalizing gaps with
  | nil => exact rejoin_of_kept hq (some gaps) after
  | cons d dropped ih =>
    obtain ⟨hd, hLater⟩ := List.forall_mem_cons.mp hDropped
    rw [List.cons_append, rejoin_of_dropped hd, Option.map_some, ih hLater, ← List.append_cons,
      List.cons_append, List.map_cons]

/-! ## They divide what is left -/

def IsGap (gap : List Char) : Prop := gap ≠ [] ∧ gap.all isSpace = true

theorem IsGap.all_head? (h : IsGap gap) (rest : List Char) :
    (gap ++ rest).head?.all isSpace = true := by
  rw [List.head?_append_of_ne_nil _ h.1]
  exact head?_all_of_all h.2

theorem Divides.all_head?_rest {tail : List Char} (h : Divides text (p :: ps) tail) :
    (ps.flatMap Piece.source ++ tail).head?.all isSpace = true := by
  rcases h.closes with hBlank | ⟨-, hHead⟩
  · exact head?_all_of_all hBlank
  · exact hHead

theorem isGap_of_mem_append {tail : List Char} (h : Divides text (p :: ps) tail)
    (hText : text.head?.all isSpace = true) (hGaps : ∀ g ∈ gaps, IsGap g) :
    ∀ g ∈ gaps ++ [p.gap], IsGap g := by
  intro g hg
  rcases List.mem_append.mp hg with hg | hg
  · exact hGaps g hg
  · rw [List.mem_singleton.mp hg]
    exact ⟨h.gap_ne_nil hText, (h.proper p List.mem_cons_self).gap⟩

theorem isGap_of_mem_widest (h : ∀ gaps ∈ passed, gaps ≠ [] ∧ ∀ g ∈ gaps, IsGap g) :
    ∀ g ∈ passed.map widest, IsGap g := by
  intro g hg
  obtain ⟨gaps, hGaps, rfl⟩ := Option.map_eq_some_iff.mp hg
  obtain ⟨hNonempty, hAll⟩ := h gaps hGaps
  exact hAll _ (isWidest_widest hNonempty).mem

-- Once a sentence is kept, what is left to read begins with a gap, and so does what is left of it.
theorem divides_rejoin {tail : List Char} (passed : Option (List (List Char)))
    (h : Divides text ps tail)
    (hPassed : ∀ gaps ∈ passed, (∀ g ∈ gaps, IsGap g) ∧ text.head?.all isSpace = true) :
    Divides ((rejoin keep passed ps).flatMap Piece.source) (rejoin keep passed ps) [] ∧
      (passed.isSome → ((rejoin keep passed ps).flatMap Piece.source).head?.all isSpace = true) := by
  induction ps generalizing text passed with
  | nil => exact ⟨.nil rfl, fun _ => rfl⟩
  | cons p ps ih =>
    have hp := h.proper p List.mem_cons_self
    have hRest := h.all_head?_rest
    have hNow : ∀ gaps ∈ passed.map (· ++ [p.gap]), gaps ≠ [] ∧ ∀ g ∈ gaps, IsGap g := by
      intro gaps hGaps
      obtain ⟨earlier, hEarlier, rfl⟩ := Option.map_eq_some_iff.mp hGaps
      obtain ⟨hGap, hText⟩ := hPassed earlier hEarlier
      exact ⟨by simp, isGap_of_mem_append h hText hGap⟩
    cases hKeep : keep p.sentence with
    | true =>
      -- No gaps have been passed since this sentence, and what comes after it begins with one.
      obtain ⟨hLater, hHead⟩ := ih (some []) h.tail_divides (by simpa using hRest)
      have hWidest := isGap_of_mem_widest hNow
      rw [rejoin_of_kept hKeep, List.flatMap_cons]
      refine ⟨.cons ⟨?_, hp.first, hp.last, hp.whole⟩ ?_ hLater, ?_⟩
      · cases passed with
        | none => rfl
        | some gaps => exact (hWidest _ rfl).2
      · intro hMore
        refine ⟨(h.ends ?_).1, hHead rfl⟩
        rintro rfl
        exact hMore rfl
      · intro hSome
        obtain ⟨gaps, rfl⟩ := Option.isSome_iff_exists.mp hSome
        rw [Piece.source, List.append_assoc]
        exact (hWidest _ rfl).all_head? _
    | false =>
      rw [rejoin_of_dropped hKeep]
      obtain ⟨hLater, hHead⟩ := ih (passed.map (· ++ [p.gap])) h.tail_divides
        fun gaps hGaps => ⟨(hNow gaps hGaps).2, hRest⟩
      exact ⟨hLater, fun hSome => hHead (by simpa using hSome)⟩

theorem gap_of_mem_head?_rejoin (h : q ∈ (rejoin keep none ps).head?) : q.gap = [] := by
  induction ps with
  | nil => cases h
  | cons p ps ih =>
    cases hp : keep p.sentence with
    | true =>
      rw [rejoin_of_kept hp] at h
      cases h
      rfl
    | false =>
      rw [rejoin_of_dropped hp] at h
      exact ih h

theorem Divides.trim_eq_self (h : Divides text ps []) (hGap : ∀ q ∈ ps.head?, q.gap = []) :
    trim text = text := by
  cases ps with
  | nil =>
    rw [← h.spells]
    rfl
  | cons p ps =>
    have hFirst : text.head?.any (!isSpace ·) = true := by
      have hp := h.proper p List.mem_cons_self
      rw [h.eq_append, hGap p rfl, List.nil_append, List.head?_append_of_ne_nil _ hp.sentence_ne_nil]
      exact hp.first
    have hLast : text.getLast?.any (!isSpace ·) = true := by
      obtain ⟨front, q, hSplit⟩ := (List.eq_nil_or_concat (p :: ps)).resolve_left (by simp)
      rw [List.concat_eq_append] at hSplit
      rw [hSplit] at h
      have hq := h.proper q (by simp)
      rw [← h.spells, List.append_nil, List.flatMap_append, List.flatMap_singleton, Piece.source,
        ← List.append_assoc, List.getLast?_append_of_ne_nil _ hq.sentence_ne_nil]
      exact hq.last
    exact Household.Text.trim_eq_self (any_isSpace_eq_false hFirst) (any_isSpace_eq_false hLast)

/-! ## Concepts -/

/-- The sentence mentions none of the concepts; blank ones do not count. -/
def isFree (concepts : List String) (s : List Char) : Bool :=
  concepts.all fun c => trim c.toList = [] || !mentions (trim c.toList) s

theorem isNone_mentioned? (concepts : List String) (s : List Char) :
    (mentioned? (usableConcepts concepts) s).isNone = isFree concepts s := by
  rw [Bool.eq_iff_iff, Option.isNone_iff_eq_none, mentioned?, List.find?_eq_none, usableConcepts,
    isFree, List.all_eq_true]
  constructor
  · intro h c hc
    by_cases hBlank : trim c.toList = []
    · simp [hBlank]
    · simpa [hBlank] using h (trim c.toList)
        (List.mem_filter.mpr ⟨List.mem_map_of_mem hc, by simpa using hBlank⟩)
  · intro h phrase hPhrase
    obtain ⟨hMem, hUsable⟩ := List.mem_filter.mp hPhrase
    obtain ⟨c, hc, rfl⟩ := List.mem_map.mp hMem
    simpa [of_decide_eq_true hUsable] using h c hc

def freeSentences (concepts : List String) (text : List Char) : List (List Char) :=
  (sentences text).filter (isFree concepts)

/-- The concepts for which sentences are dropped, sentence by sentence. -/
def mentionedIn (concepts : List String) (text : List Char) : List (List Char) :=
  (pieces text).filterMap fun p => mentioned? (usableConcepts concepts) p.sentence

theorem length_mentionedIn (concepts : List String) (text : List Char) :
    (mentionedIn concepts text).length =
      (sentences text).length - (freeSentences concepts text).length := by
  have hDropped : (mentionedIn concepts text).length =
      (pieces text).countP fun p => ¬isFree concepts p.sentence := by
    rw [mentionedIn, List.length_filterMap_eq_countP]
    refine List.countP_congr fun p _ => ?_
    rw [← isNone_mentioned?]
    cases mentioned? (usableConcepts concepts) p.sentence <;> simp
  have hFree : (freeSentences concepts text).length =
      (pieces text).countP fun p => isFree concepts p.sentence := by
    rw [freeSentences, sentences, ← List.countP_eq_length_filter, List.countP_map]
    rfl
  have hAll := List.length_eq_countP_add_countP (fun p : Piece => isFree concepts p.sentence)
    (l := pieces text)
  rw [hDropped, hFree, sentences, List.length_map, hAll]
  omega

theorem mentionedIn_eq_nil_iff {concepts : List String} :
    mentionedIn concepts text = [] ↔ freeSentences concepts text = sentences text := by
  rw [freeSentences, List.filter_eq_self, mentionedIn, List.filterMap_eq_nil_iff, sentences,
    List.forall_mem_map]
  simp only [← isNone_mentioned?, Option.isNone_iff_eq_none]

/-- The text without the sentences that mention a concept. -/
def withoutMentions (concepts : List String) (text : List Char) : List Char :=
  joinKept (isFree concepts) none (pieces text)

theorem divides_withoutMentions (concepts : List String) (text : List Char) :
    Divides (withoutMentions concepts text) (rejoin (isFree concepts) none (pieces text)) [] := by
  obtain ⟨tail, hDivides⟩ := divides_pieces text
  rw [withoutMentions, joinKept_eq]
  exact (divides_rejoin none hDivides (by simp)).1

theorem sentences_withoutMentions (concepts : List String) (text : List Char) :
    sentences (withoutMentions concepts text) = freeSentences concepts text := by
  rw [sentences, (divides_withoutMentions concepts text).pieces_eq, map_sentence_rejoin]
  rfl

theorem withoutMentions_eq_nil_iff {concepts : List String} :
    withoutMentions concepts text = [] ↔ freeSentences concepts text = [] := by
  rw [← sentences_withoutMentions]
  constructor
  · intro hNil
    rw [hNil]
    rfl
  · intro hNone
    have hDivides := divides_withoutMentions concepts text
    rw [sentences, hDivides.pieces_eq, List.map_eq_nil_iff] at hNone
    rw [← hDivides.spells, hNone]
    rfl

theorem avoid?_eq (concepts : List String) (text : List Char) :
    avoid? concepts text =
      if mentionedIn concepts text = [] then none
      else
        let notes := (mentionedIn concepts text).map mentionNote
        if withoutMentions concepts text = [] then
          some ⟨fallbackSentence.toList, notes ++ ["all sentences removed; used fallback"]⟩
        else some ⟨withoutMentions concepts text, notes⟩ := by
  have hKeep : (fun s => (mentioned? (usableConcepts concepts) s).isNone) = isFree concepts :=
    funext (isNone_mentioned? concepts)
  rw [avoid?, hKeep]
  dsimp only
  rw [← withoutMentions, ← mentionedIn]
  split
  · rename_i hNone
    rw [if_pos hNone]
  · rename_i hSome
    rw [if_neg hSome]
    split
    · rename_i hNothing
      rw [if_pos hNothing]
    · rename_i hLeft
      rw [if_neg hLeft]

theorem avoid?_eq_none (concepts : List String)
    (h : freeSentences concepts text = sentences text) : avoid? concepts text = none := by
  rw [avoid?_eq, if_pos (mentionedIn_eq_nil_iff.mpr h)]

/-! ## What is left -/

/-- The text that is left divides into the sentences that mention no concept, joined as they were
if they were neighbours, and otherwise by the widest gap between them. -/
structure Spares (concepts : List String) (text out : List Char) : Prop where
  sentences_eq : sentences out = freeSentences concepts text
  trimmed : trim out = out
  joined : ∀ before p dropped q after, pieces text = before ++ p :: (dropped ++ q :: after) →
    isFree concepts p.sentence = true → isFree concepts q.sentence = true →
    (∀ d ∈ dropped, isFree concepts d.sentence = false) →
    ∃ front g gap later, pieces out = front ++ ⟨g, p.sentence⟩ :: ⟨gap, q.sentence⟩ :: later ∧
      front.length = (before.filter fun b => isFree concepts b.sentence).length ∧
      IsWidest gap ((dropped ++ [q]).map Piece.gap) ∧ (dropped = [] → gap = q.gap)
  settled : avoid? concepts out = none

theorem spares_withoutMentions (concepts : List String) (text : List Char) :
    Spares concepts text (withoutMentions concepts text) where
  sentences_eq := sentences_withoutMentions concepts text
  trimmed := (divides_withoutMentions concepts text).trim_eq_self fun q hq =>
    gap_of_mem_head?_rejoin hq
  joined before p dropped q after hText hp hq hDropped := by
    obtain ⟨g, hBefore⟩ := exists_rejoin_append hp none before
    refine ⟨rejoin (isFree concepts) none before, g, widest ((dropped ++ [q]).map Piece.gap),
      rejoin (isFree concepts) (some []) after, ?_, ?_, isWidest_widest (by simp), ?_⟩
    · rw [(divides_withoutMentions concepts text).pieces_eq, hText, hBefore,
        rejoin_dropped_append hDropped hq, List.nil_append]
    · rw [length_rejoin]
    · rintro rfl
      rfl
  settled := by
    refine avoid?_eq_none concepts ?_
    rw [freeSentences, sentences_withoutMentions, freeSentences, List.filter_filter]
    simp only [Bool.and_self]

/-- Sentences that mention a concept are dropped, and no others. If none is left, a fallback takes
their place. -/
theorem avoid?_drops_mentions (concepts : List String) (text : List Char) :
    (freeSentences concepts text = sentences text → avoid? concepts text = none) ∧
      (freeSentences concepts text = [] → sentences text ≠ [] →
        ∃ e, avoid? concepts text = some e ∧ e.text = fallbackSentence.toList ∧
          e.notes.length = (sentences text).length + 1) ∧
      (freeSentences concepts text ≠ sentences text → freeSentences concepts text ≠ [] →
        ∃ e, avoid? concepts text = some e ∧ Spares concepts text e.text ∧
          e.notes.length = (sentences text).length - (freeSentences concepts text).length) := by
  refine ⟨avoid?_eq_none concepts, fun hNone hText => ?_, fun hSome hLeft => ?_⟩
  · have hMentioned : mentionedIn concepts text ≠ [] := by
      rw [Ne, mentionedIn_eq_nil_iff, hNone]
      exact hText.symm
    rw [avoid?_eq, if_neg hMentioned, if_pos (withoutMentions_eq_nil_iff.mpr hNone)]
    exact ⟨_, rfl, rfl, by simp [length_mentionedIn, hNone]⟩
  · rw [avoid?_eq, if_neg (mt mentionedIn_eq_nil_iff.mp hSome),
      if_neg (mt withoutMentions_eq_nil_iff.mp hLeft)]
    exact ⟨_, rfl, spares_withoutMentions concepts text, by simp [length_mentionedIn]⟩

end Household.Reply
