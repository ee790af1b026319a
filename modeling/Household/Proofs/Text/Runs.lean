import Household.Text.Case
import Household.Text.Space

/-! # Runs of characters

The maximal stretches of a text whose characters satisfy a condition. They are found on either side
of a place where no such stretch goes across, one side independent of the other. The words between
white space are the runs of characters that are no white space.
-/

set_option autoImplicit false

namespace Household.Text

/-- The maximal stretches of characters that satisfy `p`, from left to right. -/
def runs (p : Char → Bool) (s : List Char) : List (List Char) :=
  (s.splitOnP fun c => !p c).filter (· ≠ [])

/-- Between the two texts there is no place in the middle of a run. -/
def Parted (p : Char → Bool) (s t : List Char) : Prop :=
  s.getLast?.any p = false ∨ t.head?.any p = false

variable {p : Char → Bool} {c : Char} {s t w : List Char}

theorem Parted.append_left (h : Parted p s t) (hs : s ≠ []) (front : List Char) :
    Parted p (front ++ s) t := by
  refine h.imp_left fun hLast => ?_
  obtain ⟨c, hc⟩ := Option.ne_none_iff_exists'.mp (mt List.getLast?_eq_none_iff.mp hs)
  rw [List.getLast?_append, hc, Option.some_or, ← hc]
  exact hLast

@[simp] theorem runs_nil (p : Char → Bool) : runs p [] = [] := by
  simp [runs]

theorem runs_append_cons (hc : p c = false) (s t : List Char) :
    runs p (s ++ c :: t) = runs p s ++ runs p t := by
  have hSep : (!p c) = true := by simp [hc]
  rw [runs, List.splitOnP_append_cons s t hSep, List.filter_append, runs, runs]

theorem runs_cons_of_not (hc : p c = false) (t : List Char) : runs p (c :: t) = runs p t := by
  have h := runs_append_cons hc [] t
  rwa [List.nil_append, runs_nil, List.nil_append] at h

theorem runs_of_all (h : s.all p = true) (hne : s ≠ []) : runs p s = [s] := by
  have hSep : ∀ c ∈ s, (!p c) = false := by
    intro c hc
    simp [List.all_eq_true.mp h c hc]
  rw [runs, List.splitOnP_eq_singleton hSep]
  simp [hne]

theorem runs_eq_nil (h : ∀ c ∈ s, p c = false) : runs p s = [] := by
  induction s with
  | nil => exact runs_nil p
  | cons c rest ih =>
    rw [runs_cons_of_not (h c List.mem_cons_self)]
    exact ih fun d hd => h d (List.mem_cons_of_mem _ hd)

theorem runs_append (h : Parted p s t) : runs p (s ++ t) = runs p s ++ runs p t := by
  rcases h with hLast | hHead
  · rcases List.eq_nil_or_concat s with rfl | ⟨front, c, rfl⟩
    · simp
    · have hc : p c = false := by simpa using hLast
      rw [List.concat_eq_append, List.append_assoc, List.singleton_append, runs_append_cons hc,
        runs_append_cons hc, runs_nil, List.append_nil]
  · cases t with
    | nil => simp
    | cons c rest =>
      have hc : p c = false := by simpa using hHead
      rw [runs_append_cons hc, runs_cons_of_not hc]

/-- A stretch with no character of its kind on either side is a run. -/
theorem mem_runs_append {before after : List Char} (hw : w.all p = true) (hne : w ≠ [])
    (hBefore : before.getLast?.any p = false) (hAfter : after.head?.any p = false) :
    w ∈ runs p (before ++ w ++ after) := by
  have hLeft : runs p (before ++ w) = runs p before ++ [w] := by
    rw [runs_append (.inl hBefore), runs_of_all hw hne]
  rw [runs_append (.inr hAfter), hLeft]
  simp

theorem runs_cons_cons {d : Char} (hc : p c = true) (hd : p d = true) (s : List Char) :
    runs p (c :: d :: s) =
      match runs p (d :: s) with
      | run :: later => (c :: run) :: later
      | [] => [[c]] := by
  obtain ⟨first, later, hSplit⟩ := List.exists_cons_of_ne_nil (List.splitOnP_ne_nil (fun c => !p c) s)
  simp [runs, List.splitOnP_cons_eq_if_modifyHead, hc, hd, hSplit]

theorem runs_cons_of_parted (hc : p c = true) (ht : t.head?.any p = false) :
    runs p (c :: t) = [c] :: runs p t := by
  have hFirst : runs p [c] = [[c]] := runs_of_all (by simp [hc]) (by simp)
  rw [← List.singleton_append, runs_append (.inr ht), hFirst]
  rfl

theorem runs_append_left (h : ∀ c ∈ s, p c = false) (t : List Char) :
    runs p (s ++ t) = runs p t := by
  have hLast : s.getLast?.any p = false := by
    cases hs : s.getLast? with
    | none => rfl
    | some c => exact h c (List.mem_of_getLast? hs)
  rw [runs_append (.inl hLast), runs_eq_nil h, List.nil_append]

theorem runs_append_right (h : ∀ c ∈ t, p c = false) (s : List Char) :
    runs p (s ++ t) = runs p s := by
  have hHead : t.head?.any p = false := by
    cases t with
    | nil => rfl
    | cons c rest => exact h c List.mem_cons_self
  rw [runs_append (.inr hHead), runs_eq_nil h, List.append_nil]

/-! ## Dropping what lies outside of runs -/

section Dropping

variable {q : Char → Bool}

theorem runs_dropWhile (h : ∀ c, q c = true → p c = false) (s : List Char) :
    runs p (s.dropWhile q) = runs p s := by
  have hGap : ∀ c ∈ s.takeWhile q, p c = false := fun c hc =>
    h c (List.all_eq_true.mp List.all_takeWhile c hc)
  have hText := List.takeWhile_append_dropWhile (p := q) (l := s)
  rw [← runs_append_left hGap, hText]

theorem runs_dropEndWhile (h : ∀ c, q c = true → p c = false) (s : List Char) :
    runs p (dropEndWhile q s) = runs p s := by
  obtain ⟨tail, hs, hTail⟩ := exists_append_dropEndWhile q s
  have hGap : ∀ c ∈ tail, p c = false := fun c hc => h c (List.all_eq_true.mp hTail c hc)
  rw [← runs_append_right hGap, ← hs]

theorem runs_trim (h : ∀ c, isSpace c = true → p c = false) (s : List Char) :
    runs p (trim s) = runs p s := by
  rw [trim, trimEnd, trimStart, runs_dropEndWhile h, runs_dropWhile h]

end Dropping

/-! ## How many runs there are -/

theorem any_head?_dropWhile (p : Char → Bool) (s : List Char) :
    (s.dropWhile p).head?.any p = false := by
  induction s with
  | nil => rfl
  | cons c rest ih =>
    by_cases hc : p c = true
    · rw [List.dropWhile_cons_of_pos hc]
      exact ih
    · rw [List.dropWhile_cons_of_neg hc]
      exact Bool.eq_false_iff.mpr hc

theorem takeWhile_mem_runs (hne : s.takeWhile p ≠ []) : s.takeWhile p ∈ runs p s := by
  have hText := List.takeWhile_append_dropWhile (p := p) (l := s)
  have hMem : s.takeWhile p ∈ runs p ([] ++ s.takeWhile p ++ s.dropWhile p) :=
    mem_runs_append List.all_takeWhile hne rfl (any_head?_dropWhile p s)
  rwa [List.nil_append, hText] at hMem

theorem runs_ne_nil (h : s.head?.any p = true) : runs p s ≠ [] := by
  cases s with
  | nil => cases h
  | cons c rest =>
    have hc : p c = true := by simpa using h
    have hFirst : (c :: rest).takeWhile p ≠ [] := by
      rw [List.takeWhile_cons_of_pos hc]
      exact List.cons_ne_nil _ _
    exact List.ne_nil_of_mem (takeWhile_mem_runs hFirst)

theorem length_runs_cons (p : Char → Bool) (c : Char) (s : List Char) :
    (runs p (c :: s)).length =
      (runs p s).length + if p c && !s.head?.any p then 1 else 0 := by
  by_cases hc : p c = true
  · by_cases hs : s.head?.any p = true
    · cases s with
      | nil => cases hs
      | cons d s =>
        have hd : p d = true := by simpa using hs
        obtain ⟨run, later, hRuns⟩ := List.exists_cons_of_ne_nil (runs_ne_nil hs)
        rw [runs_cons_cons hc hd, hRuns]
        simp [hd]
    · have hs := Bool.eq_false_iff.mpr hs
      rw [runs_cons_of_parted hc hs]
      simp [hc, hs]
  · have hc := Bool.eq_false_iff.mpr hc
    rw [runs_cons_of_not hc]
    simp [hc]

theorem length_runs_concat (p : Char → Bool) (s : List Char) (c : Char) :
    (runs p (s ++ [c])).length =
      (runs p s).length + if p c && !s.getLast?.any p then 1 else 0 := by
  induction s with
  | nil =>
    rw [List.nil_append, length_runs_cons]
    rfl
  | cons d rest ih =>
    rw [List.cons_append, length_runs_cons, length_runs_cons, ih]
    cases rest with
    | nil => by_cases hc : p c = true <;> by_cases hd : p d = true <;> simp [hc, hd]
    | cons e rest =>
      rw [List.cons_append, List.head?_cons, List.head?_cons, List.getLast?_cons_cons]
      omega

theorem length_runs_le_append (p : Char → Bool) (s t : List Char) :
    (runs p s).length ≤ (runs p (s ++ t)).length := by
  induction t generalizing s with
  | nil => exact Nat.le_of_eq (by rw [List.append_nil])
  | cons c rest ih =>
    have hStep := ih (s ++ [c])
    rw [length_runs_concat, List.append_assoc, List.singleton_append] at hStep
    omega

/-- A run at the end that goes on is still one run. -/
theorem length_runs_append_of_all (hs : s.getLast?.any p = true) (ht : t.all p = true) :
    (runs p (s ++ t)).length = (runs p s).length := by
  induction t generalizing s with
  | nil => rw [List.append_nil]
  | cons c rest ih =>
    obtain ⟨hc, hRest⟩ := Bool.and_eq_true_iff.mp ht
    have hStep := ih (s := s ++ [c]) (by simpa using hc) hRest
    rw [length_runs_concat, List.append_assoc, List.singleton_append] at hStep
    simpa [hs] using hStep

theorem runs_map {f : Char → Char} (h : ∀ c, p (f c) = p c) (s : List Char) :
    runs p (s.map f) = (runs p s).map (List.map f) := by
  induction s with
  | nil => simp
  | cons c rest ih =>
    have hHead : (rest.map f).head?.any p = rest.head?.any p := by
      cases rest <;> simp [h]
    rw [List.map_cons]
    by_cases hc : p c = true
    · have hc' : p (f c) = true := (h c).trans hc
      by_cases hRest : rest.head?.any p = true
      · cases rest with
        | nil => cases hRest
        | cons d rest =>
          have hd : p d = true := by simpa using hRest
          rw [List.map_cons] at ih ⊢
          rw [runs_cons_cons hc' ((h d).trans hd), runs_cons_cons hc hd, ih]
          cases runs p (d :: rest) <;> rfl
      · have hRest := Bool.eq_false_iff.mpr hRest
        rw [runs_cons_of_parted hc' (hHead.trans hRest), runs_cons_of_parted hc hRest, ih]
        rfl
    · have hc := Bool.eq_false_iff.mpr hc
      rw [runs_cons_of_not hc, runs_cons_of_not ((h c).trans hc), ih]

theorem words_eq_runs (s : List Char) : words s = runs (fun c => !isSpace c) s := by
  induction s with
  | nil => exact (runs_nil _).symm
  | cons c rest ih =>
    rw [words, ih]
    split
    · rename_i hc
      rw [runs_cons_of_not (by simp [hc])]
    · rename_i hc
      split
      · rename_i hRest
        cases rest with
        | nil => cases hRest
        | cons d rest => exact (runs_cons_cons (by simp [hc]) (by simpa using hRest) rest).symm
      · rename_i hRest
        rw [runs_cons_of_parted (by simp [hc]) (Bool.eq_false_iff.mpr hRest)]

end Household.Text
