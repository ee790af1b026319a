import Mathlib.Data.List.TakeWhile
import Household.Reply.Length

/-! # Where sentences end

The sentences of a text and the gaps between them spell the text. After each of them there is white
space or nothing, so a text cut at the end of a sentence is not cut within a word.
-/

set_option autoImplicit false

namespace Household.Text

/-- What follows the part that is kept is the ending that is dropped. -/
theorem exists_drop_dropEndWhile (p : Char → Bool) (s : List Char) :
    ∃ tail, s.drop (dropEndWhile p s).length = tail ∧ s = dropEndWhile p s ++ tail ∧
      tail.all p = true := by
  obtain ⟨tail, hs, hTail⟩ := exists_append_dropEndWhile p s
  exact ⟨tail, (congrArg (List.drop _) hs).trans List.drop_left, hs, hTail⟩

theorem dropEndWhile_append_drop (p : Char → Bool) (s : List Char) :
    dropEndWhile p s ++ s.drop (dropEndWhile p s).length = s := by
  obtain ⟨tail, hDrop, hs, -⟩ := exists_drop_dropEndWhile p s
  rw [hDrop]
  exact hs.symm

theorem all_drop_dropEndWhile (p : Char → Bool) (s : List Char) :
    (s.drop (dropEndWhile p s).length).all p = true := by
  obtain ⟨tail, hDrop, -, hTail⟩ := exists_drop_dropEndWhile p s
  rw [hDrop]
  exact hTail

theorem head?_all_of_all {p : Char → Bool} {s : List Char} (h : s.all p = true) :
    s.head?.all p = true := by
  cases s with
  | nil => rfl
  | cons c rest => exact List.all_eq_true.mp h c List.mem_cons_self

end Household.Text

namespace Household.Reply

open Household.Text

theorem cut?_eq_some {ended : Bool} {text sentence rest : List Char}
    (h : cut? ended text = some (sentence, rest)) :
    text = sentence ++ rest ∧ rest.head?.all isSpace = true := by
  induction text generalizing ended sentence with
  | nil =>
    cases ended with
    | false => cases h
    | true =>
      cases h
      exact ⟨rfl, rfl⟩
  | cons c later ih =>
    rw [cut?] at h
    split at h
    · rename_i hEnd
      cases h
      exact ⟨rfl, (Bool.and_eq_true_iff.mp hEnd).2⟩
    · obtain ⟨⟨front, back⟩, hCut, hSplit⟩ := Option.map_eq_some_iff.mp h
      cases hSplit
      obtain ⟨hLater, hSpace⟩ := ih hCut
      exact ⟨by rw [hLater, List.cons_append], hSpace⟩

/-- The characters of a piece. -/
def Piece.source (p : Piece) : List Char := p.gap ++ p.sentence

/-- After the end of a sentence comes white space or nothing. -/
theorem exists_of_mem_sentenceEnds_piecesFrom {fuel : Nat} {before text upTo : List Char}
    (h : upTo ∈ sentenceEnds before (piecesFrom fuel text).1) :
    ∃ rest, before ++ text = upTo ++ rest ∧ rest.head?.all isSpace = true := by
  induction fuel generalizing before text with
  | zero => cases h
  | succ fuel ih =>
    have hText := List.takeWhile_append_dropWhile (p := isSpace) (l := text)
    rw [piecesFrom] at h
    dsimp only at h
    split at h
    · cases h
    · split at h
      · rename_i sentence rest hCut
        obtain ⟨hBody, hSpace⟩ := cut?_eq_some hCut
        have hSplit : before ++ text = before ++ text.takeWhile isSpace ++ sentence ++ rest := by
          rw [List.append_assoc, List.append_assoc, ← hBody, hText]
        rcases List.mem_cons.mp h with rfl | h
        · exact ⟨rest, hSplit, hSpace⟩
        · rw [hSplit]
          exact ih h
      · rw [sentenceEnds, sentenceEnds, List.mem_singleton] at h
        refine ⟨_, ?_, head?_all_of_all (all_drop_dropEndWhile isSpace (text.dropWhile isSpace))⟩
        rw [h, trimEnd, List.append_assoc, dropEndWhile_append_drop, List.append_assoc, hText]

theorem exists_of_lastTerminated? {text upTo : List Char} (h : lastTerminated? text = some upTo) :
    isTerminated upTo = true ∧
      ∃ rest, text = upTo ++ rest ∧ rest.head?.all isSpace = true := by
  have hMem := List.mem_of_getLast? h
  obtain ⟨hEnd, hTerminated⟩ := List.mem_filter.mp hMem
  exact ⟨hTerminated, exists_of_mem_sentenceEnds_piecesFrom hEnd⟩

theorem isSpace_eq_false_of_isTerminator {c : Char} (h : isTerminator c = true) :
    isSpace c = false := by
  simp only [isTerminator, Bool.or_eq_true, decide_eq_true_eq] at h
  rcases h with (rfl | rfl) | rfl <;> decide

theorem exists_terminator_of_isTerminated {text : List Char} (h : isTerminated text = true) :
    ∃ c ∈ text, isTerminator c = true := by
  rw [isTerminated] at h
  cases hLast : (dropEndWhile isCloser text).getLast? with
  | none =>
    rw [hLast] at h
    cases h
  | some c =>
    rw [hLast] at h
    obtain ⟨tail, hText, -⟩ := exists_append_dropEndWhile isCloser text
    refine ⟨c, ?_, h⟩
    rw [hText]
    exact List.mem_append_left _ (List.mem_of_getLast? hLast)

end Household.Reply
