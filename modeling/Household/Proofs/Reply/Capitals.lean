import Household.Proofs.Reply.Stripping

/-! # Capitals that are handed on

A sentence may begin on fillers, the first of which has a capital. When they are dropped the next
letter takes the capital over. That the fillers begin a sentence is read off the last character that
was kept before them, so that the letter stays small after a sentence that ends on a closing mark.
-/

set_option autoImplicit false

namespace Household.Reply

open Household.Text

variable {text before s t u v after opener : List Char} {front mid back ps : List (Part Unit)}
  {c : Char} {r : Span} {last : Option Char} {raise : Bool}

/-! ## What is kept -/

/-- Character by character, each as it is or in its upper-case form. -/
inductive Raises : List Char → List Char → Prop where
  | nil : Raises [] []
  | keep {s t : List Char} (c : Char) (h : Raises s t) : Raises (c :: s) (c :: t)
  | lift {s t : List Char} (c : Char) (h : Raises s t) : Raises (c :: s) (upperForm c ++ t)

/-- The second text is the first, white space and commas aside, with some characters in their
upper-case form. -/
def Echoes (s t : List Char) : Prop := ∃ raised, Raises s raised ∧ solid t = solid raised

theorem Raises.append (h : Raises s t) (h' : Raises u v) : Raises (s ++ u) (t ++ v) := by
  induction h with
  | nil => exact h'
  | keep c _ ih => exact .keep c ih
  | lift c _ ih =>
    rw [List.append_assoc]
    exact .lift c ih

theorem raises_dropFillers (last : Option Char) (raise : Bool) (ps : List (Part Unit)) :
    Raises (rebuild (fun _ _ => []) ps) (dropFillers last raise ps) := by
  induction ps generalizing last raise with
  | nil => exact .nil
  | cons part rest ih =>
    cases part with
    | found label filler => exact ih _ _
    | plain c =>
      rw [dropFillers, rebuild_plain, List.singleton_append]
      split
      · exact .keep c (ih _ _)
      · split
        · exact .lift c (ih _ _)
        · exact .keep c (ih _ _)

theorem exists_of_solid_eq (h : solid t = s ++ c :: u) :
    ∃ a b, t = a ++ c :: b ∧ solid a = s ∧ solid b = u := by
  obtain ⟨a, rest, rfl, hFirst, hRest⟩ := List.filter_eq_append_iff.mp h
  obtain ⟨loose, b, rfl, hLoose, -, hLater⟩ := List.filter_eq_cons_iff.mp hRest
  refine ⟨a ++ loose, b, by rw [List.append_assoc], ?_, hLater⟩
  have hNil : solid loose = [] := List.filter_eq_nil_iff.mpr hLoose
  rw [solid_append, hNil, List.append_nil]
  exact hFirst

/-! ## Where the reading stands -/

/-- The last visible character, and whether a capital waits to be handed on, after the parts. -/
def stateAfter (last : Option Char) (raise : Bool) : List (Part Unit) → Option Char × Bool
  | [] => (last, raise)
  | .plain c :: rest =>
    if isSpace c then stateAfter last raise rest
    else if raise then stateAfter ((upperForm c).getLast?.or last) false rest
    else stateAfter (some c) false rest
  | .found _ filler :: rest =>
    stateAfter last (raise || (last.all isTerminator && filler.head?.any isCapital)) rest

theorem stateAfter_append (last : Option Char) (raise : Bool) (ps qs : List (Part Unit)) :
    stateAfter last raise (ps ++ qs) =
      stateAfter (stateAfter last raise ps).1 (stateAfter last raise ps).2 qs := by
  induction ps generalizing last raise with
  | nil => rfl
  | cons part rest ih =>
    cases part with
    | found label filler => exact ih _ _
    | plain c =>
      rw [List.cons_append, stateAfter, stateAfter]
      split
      · exact ih _ _
      · split
        · exact ih _ _
        · exact ih _ _

theorem dropFillers_append (last : Option Char) (raise : Bool) (ps qs : List (Part Unit)) :
    dropFillers last raise (ps ++ qs) = dropFillers last raise ps ++
      dropFillers (stateAfter last raise ps).1 (stateAfter last raise ps).2 qs := by
  induction ps generalizing last raise with
  | nil => rfl
  | cons part rest ih =>
    cases part with
    | found label filler => exact ih _ _
    | plain c =>
      rw [List.cons_append, dropFillers, dropFillers, stateAfter]
      split
      · exact congrArg (c :: ·) (ih _ _)
      · split
        · rw [ih, List.append_assoc]
        · exact congrArg (c :: ·) (ih _ _)

/-! ## Ends of sentences -/

/-- A character on which a terminated sentence may end. -/
def endsSentence (c : Char) : Bool := isTerminator c || isCloser c

theorem of_endsSentence {p : Char → Bool} (h : endsSentence c = true)
    (hAll : ['.', '!', '?', '"', '\'', ')', ']', '”', '’'].all p = true) : p c = true := by
  apply List.all_eq_true.mp hAll
  simpa [endsSentence, isTerminator, isCloser, or_assoc] using h

theorem isSpace_eq_false_of_endsSentence (h : endsSentence c = true) : isSpace c = false := by
  have hVisible := of_endsSentence (p := (!isSpace ·)) h (by decide)
  simpa using hVisible

theorem upperForm_of_endsSentence (h : endsSentence c = true) : upperForm c = [c] := by
  have hSelf := of_endsSentence (p := fun d => upperForm d == [d]) h (by decide +kernel)
  exact eq_of_beq hSelf

theorem exists_endsSentence_of_isTerminated (h : isTerminated s = true) :
    ∃ c, s.getLast? = some c ∧ endsSentence c = true := by
  rcases List.eq_nil_or_concat s with rfl | ⟨body, c, rfl⟩
  · cases h
  · rw [List.concat_eq_append, isTerminated_concat] at h
    refine ⟨c, by rw [List.concat_eq_append, List.getLast?_concat], ?_⟩
    rcases Bool.or_eq_true_iff.mp h with hMark | hCloser
    · exact Bool.or_eq_true_iff.mpr (.inl hMark)
    · exact Bool.or_eq_true_iff.mpr (.inr (Bool.and_eq_true_iff.mp hCloser).2)

theorem endsFiller_eq_false_of_endsSentence (h : endsSentence c = true) : endsFiller c = false := by
  have hOther := of_endsSentence (p := (!endsFiller ·)) h (by decide)
  simpa using hOther

theorem isSpace_eq_false_of_endsFiller (h : endsFiller c = true) : isSpace c = false := by
  rcases Bool.or_eq_true_iff.mp h with hWord | hComma
  · exact isSpace_eq_false_of_isWordChar hWord
  · rw [of_decide_eq_true hComma]
    decide

theorem trimEnd_append_of_space (s : List Char) (h : t.all isSpace = true) :
    trimEnd (s ++ t) = trimEnd s := by
  rw [trimEnd, trimEnd, dropEndWhile_append, if_pos (dropEndWhile_eq_nil h)]

theorem getLast?_trimEnd_append (s : List Char) (hLast : t.getLast? = some c)
    (hc : isSpace c = false) : (trimEnd (s ++ t)).getLast? = some c := by
  have hWhole : (s ++ t).getLast? = some c := by
    rw [List.getLast?_append, hLast, Option.some_or]
  rw [trimEnd, dropEndWhile_eq_self (by rw [hWhole, Option.any_some, hc]), hWhole]

-- What is kept before a sentence ends as the sentence before it does, since that ends on no filler.
theorem stateAfter_eq
    (hFound : ∀ label filler, .found label filler ∈ ps → filler.getLast?.any endsFiller = true)
    (hEnd : (trimEnd (ps.flatMap Part.source)).getLast?.all endsSentence = true) :
    stateAfter none false ps = ((trimEnd (ps.flatMap Part.source)).getLast?, false) := by
  induction ps using List.reverseRecOn with
  | nil => rfl
  | append_singleton ps part ih =>
    rw [List.flatMap_append, List.flatMap_singleton] at hEnd ⊢
    rw [stateAfter_append]
    cases part with
    | plain c =>
      rw [Part.source] at hEnd ⊢
      by_cases hc : isSpace c = true
      · rw [trimEnd_append_of_space _ (by simp [hc])] at hEnd ⊢
        rw [ih (fun label filler hMem => hFound label filler (List.mem_append_left _ hMem)) hEnd,
          stateAfter, if_pos hc, stateAfter]
      · have hLast := getLast?_trimEnd_append (t := [c]) (c := c) (ps.flatMap Part.source) rfl
          (Bool.eq_false_iff.mpr hc)
        rw [hLast] at hEnd ⊢
        rw [stateAfter, if_neg hc]
        split
        · rw [upperForm_of_endsSentence hEnd]
          rfl
        · rfl
    | found label filler =>
      obtain ⟨c, hLast, hc⟩ := (Option.any_eq_true _ _).mp
        (hFound label filler (List.mem_append_right _ List.mem_cons_self))
      rw [Part.source, getLast?_trimEnd_append _ hLast (isSpace_eq_false_of_endsFiller hc)] at hEnd
      rw [endsFiller_eq_false_of_endsSentence hEnd] at hc
      cases hc

theorem all_endsSentence_before (hr : r ∈ spans text) (hCuts : r.Cuts text before s after) :
    (trimEnd before).getLast?.all endsSentence = true := by
  obtain ⟨tail, hDivides⟩ := divides_pieces text
  rw [← List.append_nil (pieces text)] at hDivides
  obtain ⟨front, p, later, hPieces, hPiece⟩ := hDivides.exists_of_mem_spans hr
  obtain ⟨rfl, -, -⟩ := hCuts.unique hPiece
  rw [List.append_nil, hPieces] at hDivides
  rw [trimEnd_append_of_space _ (hDivides.proper p (by simp)).gap]
  rcases List.eq_nil_or_concat front with rfl | ⟨front, q, rfl⟩
  · rfl
  · rw [List.concat_eq_append, List.append_assoc] at hDivides
    obtain ⟨c, hLast, hc⟩ :=
      exists_endsSentence_of_isTerminated (hDivides.drop.ends (List.cons_ne_nil p later)).1
    rw [List.concat_eq_append, List.flatMap_append, List.flatMap_singleton, Piece.source,
      ← List.append_assoc, getLast?_trimEnd_append _ hLast (isSpace_eq_false_of_endsSentence hc)]
    exact hc

/-! ## Sentences that begin on fillers -/

/-- A sentence starts after `before`, on a filler with a capital. What follows is fillers and white
space up to a small letter. -/
structure Opening (text before opener : List Char) (front mid back : List (Part Unit)) (c : Char) :
    Prop where
  sentence : ∃ r ∈ spans text, ∃ s after, r.Cuts text before s after
  apart : TakenApart none text (front ++ .found () opener :: (mid ++ .plain c :: back))
  front : front.flatMap Part.source = before
  capital : opener.head?.any isCapital = true
  mid : ∀ d, .plain d ∈ mid → isSpace d = true
  small : 'a' ≤ c ∧ c ≤ 'z'

theorem stateAfter_of_space (h : ∀ d, .plain d ∈ ps → isSpace d = true) :
    stateAfter last (last.all isTerminator) ps = (last, last.all isTerminator) := by
  induction ps with
  | nil => rfl
  | cons part rest ih =>
    have hRest := ih fun d hMem => h d (List.mem_cons_of_mem _ hMem)
    cases part with
    | plain d =>
      rw [stateAfter, if_pos (h d List.mem_cons_self), hRest]
    | found label filler =>
      have hSame : (last.all isTerminator || (last.all isTerminator && filler.head?.any isCapital)) =
          last.all isTerminator := by
        cases last.all isTerminator <;> rfl
      rw [stateAfter, hSame, hRest]

theorem all_isTerminator_eq (h : last.all endsSentence = true) :
    last.all isTerminator = !last.any isCloser := by
  cases last with
  | none => rfl
  | some d =>
    by_cases hMark : isTerminator d = true
    · rw [Option.all_some, Option.any_some, hMark, isCloser_eq_false_of_isTerminator hMark]
      rfl
    · have hCloser : isCloser d = true := (Bool.or_eq_true_iff.mp h).resolve_left hMark
      rw [Option.all_some, Option.any_some, Bool.eq_false_iff.mpr hMark, hCloser]
      rfl

namespace Opening

theorem toNat_lt (h : Opening text before opener front mid back c) : c.toNat < 128 := by
  have hLast : c.toNat ≤ 'z'.toNat := h.small.2
  exact Nat.lt_of_le_of_lt hLast (by decide)

theorem isWordChar_eq (h : Opening text before opener front mid back c) : isWordChar c = true :=
  isWordChar_iff.mpr (.inl h.small)

theorem stateAfter_front (h : Opening text before opener front mid back c) :
    stateAfter none false front = ((trimEnd before).getLast?, false) := by
  obtain ⟨r, hr, s, after, hCuts⟩ := h.sentence
  have hEnd := all_endsSentence_before hr hCuts
  rw [← h.front] at hEnd ⊢
  apply stateAfter_eq _ hEnd
  intro label filler hMem
  obtain ⟨_, _, _, hFiller⟩ := h.apart.exists_fillerAt_of_mem (List.mem_append_left _ hMem)
  exact hFiller.any_endsFiller

theorem exists_dropFillers (h : Opening text before opener front mid back c) :
    ∃ a b, dropFillers none false (front ++ .found () opener :: (mid ++ .plain c :: back)) =
        a ++ (if (trimEnd before).getLast?.any isCloser then c else asciiUpper c) :: b ∧
      Raises (rebuild (fun _ _ => []) (front ++ mid)) a ∧
      Raises (rebuild (fun _ _ => []) back) b := by
  obtain ⟨r, hr, s, after, hCuts⟩ := h.sentence
  have hTerminator := all_isTerminator_eq (all_endsSentence_before hr hCuts)
  have hSpace : ¬isSpace c = true :=
    Bool.eq_false_iff.mp (isSpace_eq_false_of_isWordChar h.isWordChar_eq)
  have hKept (last : Option Char) (raise : Bool) : Raises (rebuild (fun _ _ => []) (front ++ mid))
      (dropFillers none false front ++ dropFillers last raise mid) := by
    rw [rebuild, List.flatMap_append]
    exact (raises_dropFillers none false front).append (raises_dropFillers last raise mid)
  rw [dropFillers_append, h.stateAfter_front]
  dsimp only
  rw [dropFillers, h.capital, Bool.false_or, Bool.and_true, dropFillers_append,
    stateAfter_of_space h.mid]
  dsimp only
  rw [dropFillers, if_neg hSpace, hTerminator, ← List.append_assoc]
  cases (trimEnd before).getLast?.any isCloser with
  | true => exact ⟨_, _, rfl, hKept _ _, raises_dropFillers _ _ _⟩
  | false =>
    rw [upperForm_of_ascii h.toNat_lt]
    exact ⟨_, _, rfl, hKept _ _, raises_dropFillers _ _ _⟩

theorem isSolid_eq (h : Opening text before opener front mid back c) :
    isSolid (if (trimEnd before).getLast?.any isCloser then c else asciiUpper c) = true := by
  split
  · exact isSolid_of_isWordChar h.isWordChar_eq
  · apply isSolid_of_isWordChar
    rw [isWordChar_congr (asciiLower_asciiUpper c), h.isWordChar_eq]

end Opening

/-- The small letter takes the capital over, unless the sentence before ends on a closing mark. -/
theorem stripFillers?_hands_capital_over (h : Opening text before opener front mid back c) :
    ∃ out n a b, stripFillers? text = some (out, n) ∧
      out = a ++ (if (trimEnd before).getLast?.any isCloser then c else asciiUpper c) :: b ∧
      Echoes (rebuild (fun _ _ => []) (front ++ mid)) a ∧
      Echoes (rebuild (fun _ _ => []) back) b := by
  have hParts := takenApart_iff.mp h.apart
  have hHits : hits (parts findFiller text) ≠ [] := by
    rw [← hParts]
    simp [hits]
  obtain ⟨a, b, hDropped, hFront, hBack⟩ := h.exists_dropFillers
  rw [stripFillers?_eq, if_neg hHits, ← hParts, hDropped]
  have hSolid := solid_tidy
    (a ++ (if (trimEnd before).getLast?.any isCloser then c else asciiUpper c) :: b)
  rw [solid_append, solid_cons h.isSolid_eq] at hSolid
  obtain ⟨a', b', hOut, ha, hb⟩ := exists_of_solid_eq hSolid
  exact ⟨_, _, a', b', rfl, hOut, ⟨a, hFront, ha⟩, ⟨b, hBack, hb⟩⟩

theorem stripFillers?_hands_capital_over_rain :
    ∃ out n a b, stripFillers? "It rains. Honestly, just it is late.".toList = some (out, n) ∧
      out = a ++ 'I' :: b ∧ Echoes "It rains.   ".toList a ∧ Echoes "t is late.".toList b := by
  have hOpening : Opening "It rains. Honestly, just it is late.".toList "It rains. ".toList
      "Honestly,".toList ("It rains. ".toList.map .plain)
      [.plain ' ', .found () "just".toList, .plain ' '] ("t is late.".toList.map .plain) 'i' :=
    { sentence := ⟨⟨10, 36⟩, by decide, "Honestly, just it is late.".toList, [],
        ⟨by decide, by decide, by decide⟩⟩
      apart := takenApart_iff.mpr rfl
      front := rfl
      capital := by decide
      mid := by simp; decide
      small := by decide }
  exact stripFillers?_hands_capital_over hOpening

def quoted : List Char := "She said \"no.\" Basically it is late.".toList

theorem opening_quoted :
    Opening quoted "She said \"no.\" ".toList "Basically".toList
      ("She said \"no.\" ".toList.map .plain) [.plain ' '] ("t is late.".toList.map .plain) 'i' where
  sentence := ⟨⟨15, 36⟩, by decide, "Basically it is late.".toList, [],
    ⟨by decide, by decide, by decide⟩⟩
  apart := takenApart_iff.mpr rfl
  front := rfl
  capital := by decide
  mid := by simp; decide
  small := by decide

/-- After a quote the letter stays small. -/
theorem not_hands_capital_over_quoted :
    ¬∀ text before opener front mid back c, Opening text before opener front mid back c →
      ∃ out n a b, stripFillers? text = some (out, n) ∧ out = a ++ asciiUpper c :: b ∧
        Echoes (rebuild (fun _ _ => []) (front ++ mid)) a ∧
        Echoes (rebuild (fun _ _ => []) back) b := by
  intro h
  have hStays : stripFillers? quoted = some ("She said \"no.\" it is late.".toList, 1) := by
    decide +kernel
  obtain ⟨out, n, a, b, hOut, hSplit, -, -⟩ := h _ _ _ _ _ _ _ opening_quoted
  rw [hStays] at hOut
  cases hOut
  have hCapital : asciiUpper 'i' ∈ "She said \"no.\" it is late.".toList := by
    rw [hSplit]
    exact List.mem_append_right _ List.mem_cons_self
  exact absurd hCapital (by decide)

end Household.Reply
