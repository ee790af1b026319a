import Household.Proofs.Reply.Sentences
import Household.Proofs.Text.Trimming

/-! # How long a reply may be

A reply is cut if, and only if, it has more words than allowed, and what is left of it has no more.
It is cut between words, so that every word of it is a word of the whole reply.
-/

set_option autoImplicit false

namespace Household.Text

theorem wordCount_nil : wordCount [] = 0 := rfl

theorem wordCount_eq_length_runs (s : List Char) :
    wordCount s = (runs (fun c => !isSpace c) s).length := by
  rw [wordCount, words_eq_runs]

theorem wordCount_concat (s : List Char) (c : Char) :
    wordCount (s ++ [c]) =
      wordCount s + if !isSpace c && !s.getLast?.any (!isSpace ·) then 1 else 0 := by
  rw [wordCount_eq_length_runs, wordCount_eq_length_runs, length_runs_concat]

theorem wordCount_le_append (s t : List Char) : wordCount s ≤ wordCount (s ++ t) := by
  rw [wordCount_eq_length_runs, wordCount_eq_length_runs]
  exact length_runs_le_append _ s t

theorem wordCount_trim (s : List Char) : wordCount (trim s) = wordCount s := by
  rw [wordCount_eq_length_runs, wordCount_eq_length_runs, runs_trim fun c hc => by simp [hc]]

end Household.Text

namespace Household.Reply

open Household.Text

variable {n limit : Nat} {inWord : Bool} {text before kept out w : List Char}

/-! ## The first words -/

-- Both lemmas read `text` after what was already `seen`, and are by induction on the reading: a
-- character moves from one to the other and starts a word exactly if `n` goes down.

theorem wordCount_of_beforeWord?_eq_none (seen : List Char)
    (hSeen : seen.getLast?.any (!isSpace ·) = inWord) (h : beforeWord? n inWord text = none) :
    wordCount (seen ++ text) ≤ wordCount seen + n := by
  fun_induction beforeWord? n inWord text generalizing seen with
  | case1 => simp
  | case2 n inWord c rest hc ih =>
    have hStep : wordCount (seen ++ [c]) = wordCount seen := by simp [wordCount_concat, hc]
    have hLater := ih (seen ++ [c]) (by simp [hc]) (Option.map_eq_none_iff.mp h)
    rw [List.append_cons]
    omega
  | case3 n c rest hc ih =>
    have hStep : wordCount (seen ++ [c]) = wordCount seen := by simp [wordCount_concat, hSeen]
    have hLater := ih (seen ++ [c]) (by simp [hc]) (Option.map_eq_none_iff.mp h)
    rw [List.append_cons]
    omega
  | case4 => cases h
  | case5 inWord c rest hc hIn n ih =>
    have hStep : wordCount (seen ++ [c]) = wordCount seen + 1 := by
      simp [wordCount_concat, hSeen, hc, hIn]
    have hLater := ih (seen ++ [c]) (by simp [hc]) (Option.map_eq_none_iff.mp h)
    rw [List.append_cons]
    omega

theorem exists_of_beforeWord?_eq_some (seen : List Char)
    (hSeen : seen.getLast?.any (!isSpace ·) = inWord)
    (h : beforeWord? n inWord text = some before) :
    ∃ c rest, text = before ++ c :: rest ∧ isSpace c = false ∧
      (seen ++ before).getLast?.any (!isSpace ·) = false ∧
        wordCount (seen ++ before) = wordCount seen + n := by
  fun_induction beforeWord? n inWord text generalizing seen before with
  | case1 => cases h
  | case2 n inWord c rest hc ih =>
    have hStep : wordCount (seen ++ [c]) = wordCount seen := by simp [wordCount_concat, hc]
    obtain ⟨later, hLater, rfl⟩ := Option.map_eq_some_iff.mp h
    obtain ⟨d, tail, hRest, hd, hGap, hCount⟩ := ih (seen ++ [c]) (by simp [hc]) hLater
    rw [List.append_cons]
    exact ⟨d, tail, by rw [hRest, List.cons_append], hd, hGap, by omega⟩
  | case3 n c rest hc ih =>
    have hStep : wordCount (seen ++ [c]) = wordCount seen := by simp [wordCount_concat, hSeen]
    obtain ⟨later, hLater, rfl⟩ := Option.map_eq_some_iff.mp h
    obtain ⟨d, tail, hRest, hd, hGap, hCount⟩ := ih (seen ++ [c]) (by simp [hc]) hLater
    rw [List.append_cons]
    exact ⟨d, tail, by rw [hRest, List.cons_append], hd, hGap, by omega⟩
  | case4 inWord c rest hc hIn =>
    cases h
    rw [List.append_nil]
    exact ⟨c, rest, rfl, Bool.eq_false_iff.mpr hc, by rw [hSeen, Bool.eq_false_iff.mpr hIn], rfl⟩
  | case5 inWord c rest hc hIn n ih =>
    have hStep : wordCount (seen ++ [c]) = wordCount seen + 1 := by
      simp [wordCount_concat, hSeen, hc, hIn]
    obtain ⟨later, hLater, rfl⟩ := Option.map_eq_some_iff.mp h
    obtain ⟨d, tail, hRest, hd, hGap, hCount⟩ := ih (seen ++ [c]) (by simp [hc]) hLater
    rw [List.append_cons]
    exact ⟨d, tail, by rw [hRest, List.cons_append], hd, hGap, by omega⟩

theorem wordCount_le_of_beforeWord? (h : beforeWord? n false text = none) : wordCount text ≤ n := by
  have hCount := wordCount_of_beforeWord?_eq_none [] rfl h
  rwa [List.nil_append, wordCount_nil, Nat.zero_add] at hCount

theorem exists_of_beforeWord? (h : beforeWord? n false text = some before) :
    ∃ c rest, text = before ++ c :: rest ∧ isSpace c = false ∧
      before.getLast?.any (!isSpace ·) = false ∧ wordCount before = n := by
  have hSplit := exists_of_beforeWord?_eq_some [] rfl h
  rwa [List.nil_append, wordCount_nil, Nat.zero_add] at hSplit

theorem firstWords?_eq_none_iff : firstWords? n text = none ↔ wordCount text ≤ n := by
  rw [firstWords?, Option.map_eq_none_iff]
  refine ⟨wordCount_le_of_beforeWord?, fun hCount => ?_⟩
  cases h : beforeWord? n false text with
  | none => rfl
  | some before =>
    obtain ⟨c, rest, rfl, hc, hGap, hBefore⟩ := exists_of_beforeWord? h
    have hNext : wordCount (before ++ [c]) = wordCount before + 1 := by
      simp [wordCount_concat, hc, hGap]
    have hMore := wordCount_le_append (before ++ [c]) rest
    rw [← List.append_cons] at hMore
    omega

theorem exists_of_firstWords? (h : firstWords? n text = some kept) :
    ∃ before rest, text = before ++ rest ∧ kept = trim before ∧ wordCount before = n ∧
      before.getLast?.any (!isSpace ·) = false := by
  obtain ⟨before, hBefore, rfl⟩ := Option.map_eq_some_iff.mp h
  obtain ⟨c, rest, hText, -, hGap, hCount⟩ := exists_of_beforeWord? hBefore
  exact ⟨before, c :: rest, hText, rfl, hCount, hGap⟩

theorem wordCount_of_firstWords? (h : firstWords? n text = some kept) : wordCount kept = n := by
  obtain ⟨before, rest, -, rfl, hCount, -⟩ := exists_of_firstWords? h
  rw [wordCount_trim, hCount]

theorem exists_of_withEllipsis (hKept : kept.getLast?.any (!isSpace ·) = true) :
    ∃ body tail, withEllipsis kept = body ++ ellipsis.toList ∧ kept = body ++ tail ∧
      tail.all isLoose = true ∧ body.getLast?.any (!isSpace ·) = true := by
  rw [withEllipsis]
  by_cases hBody : dropEndWhile isLoose kept = []
  · exact ⟨kept, [], by simp [hBody], by simp, rfl, hKept⟩
  · obtain ⟨tail, hSplit, hTail⟩ := exists_append_dropEndWhile isLoose kept
    refine ⟨dropEndWhile isLoose kept, tail, by simp [hBody], hSplit, hTail, ?_⟩
    obtain ⟨c, hLast⟩ := Option.ne_none_iff_exists'.mp (mt List.getLast?_eq_none_iff.mp hBody)
    have hTight := getLast_dropEndWhile isLoose kept hLast
    simp only [isLoose, Bool.or_eq_false_iff] at hTight
    simp [hLast, hTight.2]

theorem wordCount_withEllipsis_le (hKept : kept.getLast?.any (!isSpace ·) = true) :
    wordCount (withEllipsis kept) ≤ wordCount kept := by
  obtain ⟨body, tail, hOut, hSplit, -, hLast⟩ := exists_of_withEllipsis hKept
  have hEllipsis : wordCount (body ++ ellipsis.toList) = wordCount body := by
    rw [wordCount_eq_length_runs, wordCount_eq_length_runs,
      length_runs_append_of_all hLast (by decide)]
  rw [hOut, hEllipsis, hSplit]
  exact wordCount_le_append body tail

theorem enforce?_eq_none_iff : enforce? limit text = none ↔ wordCount text ≤ max limit 1 := by
  rw [enforce?, Option.map_eq_none_iff, firstWords?_eq_none_iff]

theorem exists_of_enforce? (h : enforce? limit text = some out) :
    ∃ kept, firstWords? (max limit 1) text = some kept ∧
      (out = withEllipsis kept ∨
        ∃ rest, kept = out ++ rest ∧ rest.head?.all isSpace = true ∧ isTerminated out = true) := by
  obtain ⟨kept, hKept, hOut⟩ := Option.map_eq_some_iff.mp h
  refine ⟨kept, hKept, ?_⟩
  split at hOut
  · rename_i upTo hLast
    obtain ⟨hTerminated, rest, hSplit, hSpace⟩ := exists_of_lastTerminated? hLast
    split at hOut
    · exact .inr ⟨rest, hOut ▸ hSplit, hSpace, hOut ▸ hTerminated⟩
    · exact .inl hOut.symm
  · exact .inl hOut.symm

/-- What is kept is at least one word, so it does not end on white space. -/
theorem getLast?_of_firstWords? (h : firstWords? (max limit 1) text = some kept) :
    kept.getLast?.any (!isSpace ·) = true := by
  have hCount := wordCount_of_firstWords? h
  obtain ⟨before, rest, -, rfl, -, -⟩ := exists_of_firstWords? h
  refine any_getLast?_trim fun hNil => ?_
  rw [hNil, wordCount_nil] at hCount
  omega

theorem wordCount_enforce?_le (h : enforce? limit text = some out) :
    wordCount out ≤ max limit 1 := by
  obtain ⟨kept, hKept, hOut⟩ := exists_of_enforce? h
  rw [← wordCount_of_firstWords? hKept]
  rcases hOut with rfl | ⟨rest, rfl, -, -⟩
  · exact wordCount_withEllipsis_le (getLast?_of_firstWords? hKept)
  · exact wordCount_le_append out rest

theorem isBlank_enforce? (h : enforce? limit text = some out) : isBlank out = false := by
  obtain ⟨kept, hKept, hOut⟩ := exists_of_enforce? h
  have hVisible : ∃ c ∈ out, isSpace c = false := by
    rcases hOut with rfl | ⟨rest, -, -, hTerminated⟩
    · refine ⟨'.', ?_, by decide⟩
      rw [withEllipsis]
      exact List.mem_append_right _ (by decide)
    · obtain ⟨c, hc, hEnd⟩ := exists_terminator_of_isTerminated hTerminated
      exact ⟨c, hc, isSpace_eq_false_of_isTerminator hEnd⟩
  obtain ⟨c, hc, hSpace⟩ := hVisible
  rw [isBlank, List.all_eq_false]
  exact ⟨c, hc, Bool.eq_false_iff.mp hSpace⟩

end Household.Reply
