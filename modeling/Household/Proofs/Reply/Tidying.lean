import Household.Proofs.Text.AsciiCase
import Household.Reply.Style

/-! # Tidying keeps words apart

The blanks, commas and line ends that are dropped from a text never are all that stands between two
of its words, so that the words stay as they are.
-/

set_option autoImplicit false

namespace Household.Reply

open Household.Text

/-- The same words, and a word at the very start of both texts or of neither. -/
structure SameWords (s t : List Char) : Prop where
  runs : runs isWordChar s = runs isWordChar t
  head : s.head?.any isWordChar = t.head?.any isWordChar

namespace SameWords

variable {s t : List Char} {c d : Char}

theorem refl (s : List Char) : SameWords s s := ⟨rfl, rfl⟩

theorem cons (h : SameWords s t) (c : Char) : SameWords (c :: s) (c :: t) where
  head := rfl
  runs := by
    by_cases hc : isWordChar c = true
    · by_cases hs : s.head?.any isWordChar = true
      · have ht := h.head ▸ hs
        cases s with
        | nil => cases hs
        | cons a s =>
          cases t with
          | nil => cases ht
          | cons b t => rw [runs_cons_cons hc hs, runs_cons_cons hc ht, h.runs]
      · have hs := Bool.eq_false_iff.mpr hs
        rw [runs_cons_of_parted hc hs, runs_cons_of_parted hc (h.head ▸ hs), h.runs]
    · have hc := Bool.eq_false_iff.mpr hc
      rw [runs_cons_of_not hc, runs_cons_of_not hc, h.runs]

theorem swap (hc : isWordChar c = false) (hd : isWordChar d = false)
    (h : Text.runs isWordChar s = Text.runs isWordChar t) : SameWords (c :: s) (d :: t) where
  head := by rw [List.head?_cons, List.head?_cons, Option.any_some, Option.any_some, hc, hd]
  runs := by rw [runs_cons_of_not hc, runs_cons_of_not hd, h]

/-- A character between words may go if no word follows at once. -/
theorem skip (h : SameWords s t) (hc : isWordChar c = false)
    (hs : s.head?.any isWordChar = false) : SameWords (c :: s) t where
  head := by rw [← h.head, hs, List.head?_cons, Option.any_some, hc]
  runs := by rw [runs_cons_of_not hc, h.runs]

end SameWords

variable {s text : List Char} {c : Char}

theorem isWordChar_of_isTabOrSpace (h : isTabOrSpace c = true) : isWordChar c = false := by
  simp only [isTabOrSpace, Bool.or_eq_true, decide_eq_true_eq] at h
  rcases h with rfl | rfl <;> decide

theorem isWordChar_of_isPunctuation (h : isPunctuation c = true) : isWordChar c = false := by
  simp only [isPunctuation, Bool.or_eq_true, decide_eq_true_eq] at h
  rcases h with ((((rfl | rfl) | rfl) | rfl) | rfl) | rfl <;> decide

theorem isWordChar_of_isTerminator (h : isTerminator c = true) : isWordChar c = false := by
  simp only [isTerminator, Bool.or_eq_true, decide_eq_true_eq] at h
  rcases h with (rfl | rfl) | rfl <;> decide

/-! ## Blanks -/

theorem collapseBlanks_keeps (s : List Char) :
    SameWords s (collapseBlanks false s) ∧
      runs isWordChar s = runs isWordChar (collapseBlanks true s) := by
  induction s with
  | nil => exact ⟨SameWords.refl [], rfl⟩
  | cons c rest ih =>
    obtain ⟨ihFirst, ihLater⟩ := ih
    by_cases hc : isTabOrSpace c = true
    · have hGap := isWordChar_of_isTabOrSpace hc
      constructor
      · rw [collapseBlanks, if_neg (by simp [hc]), if_neg (by decide)]
        split
        · exact SameWords.swap hGap (by decide) ihLater
        · exact SameWords.swap hGap hGap ihLater
      · rw [collapseBlanks, if_neg (by simp [hc]), if_pos rfl, runs_cons_of_not hGap, ihLater]
    · have hKept (b : Bool) : collapseBlanks b (c :: rest) = c :: collapseBlanks false rest := by
        rw [collapseBlanks, if_pos (by simp [hc])]
      rw [hKept, hKept]
      exact ⟨ihFirst.cons c, (ihFirst.cons c).runs⟩

/-- No word starts where, blanks or commas aside, a mark comes next. -/
theorem any_head?_of_dropWhile {p : Char → Bool} (hp : ∀ c, p c = true → isWordChar c = false)
    (h : (s.dropWhile p).head?.any isWordChar = false) : s.head?.any isWordChar = false := by
  cases s with
  | nil => rfl
  | cons c rest =>
    by_cases hc : p c = true
    · exact hp c hc
    · rwa [List.dropWhile_cons_of_neg hc] at h

theorem any_isWordChar_of_any {p : Char → Bool} (hp : ∀ c, p c = true → isWordChar c = false)
    {o : Option Char} (h : o.any p = true) : o.any isWordChar = false := by
  cases o with
  | none => rfl
  | some c => exact hp c h

theorem closeUp_keeps (s : List Char) : SameWords s (closeUp s) := by
  induction s with
  | nil => exact SameWords.refl []
  | cons c rest ih =>
    rw [closeUp]
    split
    · rename_i h
      obtain ⟨hBlank, hMark⟩ := Bool.and_eq_true_iff.mp h
      have hNext := any_isWordChar_of_any (fun _ => isWordChar_of_isPunctuation) hMark
      exact ih.skip (isWordChar_of_isTabOrSpace hBlank)
        (any_head?_of_dropWhile (fun _ => isWordChar_of_isTabOrSpace) hNext)
    · exact ih.cons c

/-! ## Commas -/

/-- Commas, then blanks, then a terminator. -/
def EndsNext (s : List Char) : Prop :=
  ((s.dropWhile (· = ',')).dropWhile isTabOrSpace).head?.any isTerminator = true

namespace EndsNext

theorem any_head? (h : EndsNext s) : s.head?.any isWordChar = false := by
  have hNext := any_isWordChar_of_any (fun _ => isWordChar_of_isTerminator) h
  refine any_head?_of_dropWhile (fun c hc => ?_)
    (any_head?_of_dropWhile (fun _ => isWordChar_of_isTabOrSpace) hNext)
  rw [of_decide_eq_true hc]
  decide

theorem of_comma (h : EndsNext (',' :: s)) : EndsNext s := h

theorem of_blank (h : EndsNext (c :: s)) (hc : isTabOrSpace c = true) : EndsNext s := by
  have hNotComma : c ≠ ',' := by
    rintro rfl
    exact absurd hc (by decide)
  have hHere : (c :: s).dropWhile (· = ',') = c :: s :=
    List.dropWhile_cons_of_neg (by simpa using hNotComma)
  rw [EndsNext, hHere, List.dropWhile_cons_of_pos hc] at h
  have hNext : s.dropWhile (· = ',') = s := by
    cases s with
    | nil => rfl
    | cons d rest =>
      refine List.dropWhile_cons_of_neg fun hComma => ?_
      rw [of_decide_eq_true hComma, List.dropWhile_cons_of_neg (by decide)] at h
      have hEnd : isTerminator ',' = true := h
      exact absurd hEnd (by decide)
  rw [EndsNext, hNext]
  exact h

end EndsNext

-- After a comma that was dropped the blanks go too. They are followed by a terminator, which is
-- what the second half needs of the text and hands on to its rest.
theorem dropCommas_keeps (s : List Char) :
    SameWords s (dropCommas false s) ∧ (EndsNext s → SameWords s (dropCommas true s)) := by
  induction s with
  | nil => exact ⟨SameWords.refl [], fun _ => SameWords.refl []⟩
  | cons c rest ih =>
    obtain ⟨ihPlain, ihEnds⟩ := ih
    by_cases hComma : c = ','
    · subst hComma
      have hDropped (h : EndsNext rest) : SameWords (',' :: rest) (dropCommas true rest) :=
        (ihEnds h).skip (by decide) h.any_head?
      constructor
      · rw [dropCommas, if_pos rfl]
        dsimp only
        split
        · rename_i h
          exact hDropped h
        · exact ihPlain.cons ','
      · intro h
        have hRest : EndsNext rest := h.of_comma
        rw [dropCommas, if_pos rfl]
        dsimp only
        split
        · exact hDropped hRest
        · rename_i hNot
          exact absurd hRest hNot
    · constructor
      · rw [dropCommas, if_neg hComma, if_neg (by simp)]
        exact ihPlain.cons c
      · intro h
        rw [dropCommas, if_neg hComma]
        split
        · rename_i hBlank
          have hc : isTabOrSpace c = true := by simpa using hBlank
          have hRest := h.of_blank hc
          exact (ihEnds hRest).skip (isWordChar_of_isTabOrSpace hc) hRest.any_head?
        · exact ihPlain.cons c

/-! ## Lines -/

theorem runs_join_lines (pieces : List (List Char)) :
    runs isWordChar (join ['\n'] pieces) = pieces.flatMap (runs isWordChar) := by
  induction pieces with
  | nil => exact runs_nil _
  | cons piece later ih =>
    cases later with
    | nil => simp [join]
    | cons next later =>
      have hJoin : join ['\n'] (piece :: next :: later) =
          piece ++ '\n' :: join ['\n'] (next :: later) := by simp [join]
      rw [hJoin, runs_append_cons (by decide), ih, ← List.flatMap_cons]

theorem runs_trim_isWordChar (s : List Char) : runs isWordChar (trim s) = runs isWordChar s :=
  runs_trim (fun _ => isWordChar_eq_false_of_isSpace) s

theorem runs_trimLines (s : List Char) : runs isWordChar (trimLines s) = runs isWordChar s := by
  have hLines : runs isWordChar s = (splitAt '\n' s).flatMap (runs isWordChar) := by
    rw [← runs_join_lines, join_splitAt]
  rw [trimLines, runs_trim_isWordChar, runs_join_lines, List.flatMap_map, hLines]
  simp only [runs_trim_isWordChar]

theorem runs_tidy (s : List Char) : runs isWordChar (tidy s) = runs isWordChar s := by
  rw [tidy, runs_trimLines, ← (dropCommas_keeps _).1.runs, ← (closeUp_keeps _).runs,
    ← (collapseBlanks_keeps s).1.runs]

end Household.Reply
