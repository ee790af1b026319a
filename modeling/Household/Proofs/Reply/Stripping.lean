import Household.Proofs.Reply.Fillers
import Household.Proofs.Reply.Keeping

/-! # Nothing but fillers is dropped

A text without its fillers is the text between them, white space, commas and the case of letters
aside. In particular its words are those of the text that are in no filler, one after the other. The
text is taken to be ASCII, since a capital beyond ASCII may have several letters.
-/

set_option autoImplicit false

namespace Household.Reply

open Household.Text

variable {before : Option Char} {s t text : List Char} {c : Char} {ps : List (Part Unit)}

/-! ## What tidying never drops -/

def isSolid (c : Char) : Bool := !isSpace c && c != ','

/-- White space and commas are left out. -/
def solid (s : List Char) : List Char := s.filter isSolid

theorem isSolid_of_isSpace (h : isSpace c = true) : isSolid c = false := by
  simp [isSolid, h]

theorem isSolid_of_isTabOrSpace (h : isTabOrSpace c = true) : isSolid c = false := by
  simp only [isTabOrSpace, Bool.or_eq_true, decide_eq_true_eq] at h
  rcases h with rfl | rfl <;> decide

theorem isSolid_of_isWordChar (h : isWordChar c = true) : isSolid c = true := by
  have hComma : c ≠ ',' := by
    rintro rfl
    exact absurd h (by decide)
  simp [isSolid, isSpace_eq_false_of_isWordChar h, hComma]

theorem solid_cons (h : isSolid c = true) (s : List Char) : solid (c :: s) = c :: solid s :=
  List.filter_cons_of_pos h

theorem solid_cons_of_not (h : isSolid c = false) (s : List Char) : solid (c :: s) = solid s :=
  List.filter_cons_of_neg (Bool.eq_false_iff.mp h)

theorem solid_cons_congr (c : Char) (h : solid s = solid t) : solid (c :: s) = solid (c :: t) := by
  have h : s.filter isSolid = t.filter isSolid := h
  rw [solid, solid, List.filter_cons, List.filter_cons, h]

theorem solid_append (s t : List Char) : solid (s ++ t) = solid s ++ solid t :=
  List.filter_append s t

theorem solid_collapseBlanks (afterBlank : Bool) (s : List Char) :
    solid (collapseBlanks afterBlank s) = solid s := by
  induction s generalizing afterBlank with
  | nil => rfl
  | cons c rest ih =>
    rw [collapseBlanks]
    split
    · exact solid_cons_congr c (ih false)
    · rename_i hBlank
      have hc : isSolid c = false := isSolid_of_isTabOrSpace (by simpa using hBlank)
      rw [solid_cons_of_not hc]
      split
      · exact ih true
      · split
        · rw [solid_cons_of_not (by decide)]
          exact ih true
        · rw [solid_cons_of_not hc]
          exact ih true

theorem solid_closeUp (s : List Char) : solid (closeUp s) = solid s := by
  induction s with
  | nil => rfl
  | cons c rest ih =>
    rw [closeUp]
    split
    · rename_i h
      rw [ih, solid_cons_of_not (isSolid_of_isTabOrSpace (Bool.and_eq_true_iff.mp h).1)]
    · exact solid_cons_congr c ih

theorem solid_dropCommas (afterComma : Bool) (s : List Char) :
    solid (dropCommas afterComma s) = solid s := by
  induction s generalizing afterComma with
  | nil => rfl
  | cons c rest ih =>
    rw [dropCommas]
    split
    · rename_i hComma
      subst hComma
      dsimp only
      split
      · rw [ih, solid_cons_of_not (by decide)]
      · exact solid_cons_congr ',' (ih false)
    · split
      · rename_i h
        rw [ih, solid_cons_of_not (isSolid_of_isTabOrSpace (Bool.and_eq_true_iff.mp h).2)]
      · exact solid_cons_congr c (ih false)

theorem solid_eq_nil (h : s.all isSpace = true) : solid s = [] := by
  rw [solid, List.filter_eq_nil_iff]
  intro c hc
  rw [isSolid_of_isSpace (List.all_eq_true.mp h c hc)]
  exact Bool.false_ne_true

theorem solid_trim (s : List Char) : solid (trim s) = solid s := by
  obtain ⟨tail, hTail, hSpace⟩ := exists_append_dropEndWhile isSpace (s.dropWhile isSpace)
  have hFront : solid (s.dropWhile isSpace) = solid s := by
    have hSplit := List.takeWhile_append_dropWhile (p := isSpace) (l := s)
    rw [← congrArg solid hSplit, solid_append, solid_eq_nil List.all_takeWhile, List.nil_append]
  rw [← hFront, hTail, solid_append, solid_eq_nil hSpace, List.append_nil]
  rfl

theorem solid_join_lines (lines : List (List Char)) :
    solid (join ['\n'] lines) = lines.flatMap solid := by
  induction lines with
  | nil => rfl
  | cons line later ih =>
    cases later with
    | nil => simp [join]
    | cons next later =>
      have hJoin : join ['\n'] (line :: next :: later) =
          line ++ (['\n'] ++ join ['\n'] (next :: later)) := by simp [join]
      have hEnd : solid ['\n'] = [] := by decide
      rw [hJoin, solid_append, solid_append, ih, hEnd, List.nil_append, ← List.flatMap_cons]

theorem solid_trimLines (s : List Char) : solid (trimLines s) = solid s := by
  have hLines : solid s = (splitAt '\n' s).flatMap solid := by
    rw [← solid_join_lines, join_splitAt]
  rw [trimLines, solid_trim, solid_join_lines, List.flatMap_map, hLines]
  simp only [solid_trim]

theorem solid_tidy (s : List Char) : solid (tidy s) = solid s := by
  rw [tidy, solid_trimLines, solid_dropCommas, solid_closeUp, solid_collapseBlanks]

theorem isSolid_asciiLower (c : Char) : isSolid (asciiLower c) = isSolid c := by
  have hComma : asciiLower c = ',' ↔ c = ',' := asciiLower_eq_iff (by decide)
  rw [isSolid, isSolid, isSpace_asciiLower, Bool.eq_iff_iff]
  simp [hComma]

theorem sameLetters_solid (h : sameLetters s t = true) : sameLetters (solid s) (solid t) = true := by
  have hMap (s : List Char) : (solid s).map asciiLower = solid (s.map asciiLower) := by
    have hSolid : isSolid ∘ asciiLower = isSolid := funext isSolid_asciiLower
    rw [solid, solid, List.filter_map, hSolid]
  rw [sameLetters_iff, hMap, hMap, sameLetters_iff.mp h]

/-! ## The text between fillers -/

/-- The text before the first filler. -/
def lead : List (Part Unit) → List Char
  | .plain c :: rest => c :: lead rest
  | _ => []

/-- Each filler with the text between it and the next. -/
def matched : List (Part Unit) → List (List Char × List Char)
  | [] => []
  | .plain _ :: rest => matched rest
  | .found _ filler :: rest => (filler, lead rest) :: matched rest

theorem length_matched (ps : List (Part Unit)) : (matched ps).length = (hits ps).length := by
  induction ps with
  | nil => rfl
  | cons part rest ih =>
    cases part with
    | plain c => exact ih
    | found label filler => exact congrArg (· + 1) ih

theorem rebuild_eq_lead_append (ps : List (Part Unit)) :
    rebuild (fun _ _ => []) ps = lead ps ++ (matched ps).flatMap (·.2) := by
  induction ps with
  | nil => rfl
  | cons part rest ih =>
    cases part with
    | plain c =>
      rw [rebuild_plain, ih]
      rfl
    | found label filler =>
      rw [rebuild_found, ih]
      rfl

namespace TakenApart

theorem eq_lead_append (h : TakenApart before text ps) :
    text = lead ps ++ (matched ps).flatMap fun m => m.1 ++ m.2 := by
  induction h with
  | nil => rfl
  | keep _ _ ih => exact congrArg _ ih
  | drop hFiller _ ih =>
    rw [findFiller_whole.spells _ _ _ hFiller.findFiller_eq, matched, List.flatMap_cons,
      List.append_assoc, ← ih]
    rfl

-- No word goes on where a filler stands, so the text before it ends between words.
theorem any_getLast?_lead (h : TakenApart before text ps) (hSome : matched ps ≠ []) :
    ((lead ps).getLast?.or before).any isWordChar = false := by
  induction h with
  | nil => exact absurd rfl hSome
  | keep _ _ ih =>
    rw [lead, getLast?_cons_or]
    exact ih hSome
  | drop hFiller _ _ => exact (findFiller_whole.opens _ _ _ hFiller.findFiller_eq).1

theorem parted_lead (h : TakenApart before text ps) (f : List Char × List Char → List Char) :
    Parted isWordChar (lead ps) ((matched ps).flatMap f) := by
  by_cases hNone : matched ps = []
  · rw [hNone]
    exact .inr rfl
  · have hLast := h.any_getLast?_lead hNone
    cases hLead : (lead ps).getLast? with
    | none => exact .inl (by rw [hLead]; rfl)
    | some c =>
      rw [hLead, Option.some_or] at hLast
      exact .inl (by rw [hLead, hLast])

theorem runs_matched (h : TakenApart before text ps) :
    runs isWordChar ((matched ps).flatMap (·.2)) =
        (matched ps).flatMap (fun m => runs isWordChar m.2) ∧
      runs isWordChar ((matched ps).flatMap fun m => m.1 ++ m.2) =
        (matched ps).flatMap fun m => runs isWordChar m.1 ++ runs isWordChar m.2 := by
  induction h with
  | nil => simp [matched]
  | keep _ _ ih => exact ih
  | drop hFiller hLater ih =>
    have hParted := findFiller_whole.parted _ _ _ hFiller.findFiller_eq
    rw [hLater.eq_lead_append] at hParted
    simp only [matched, List.flatMap_cons]
    constructor
    · rw [runs_append (hLater.parted_lead _), ih.1]
    · rw [List.append_assoc, runs_append hParted, runs_append (hLater.parted_lead _), ih.2,
        List.append_assoc]

end TakenApart

theorem forall₂_runs_of_sameLetters (h : sameLetters s t = true) :
    List.Forall₂ (fun v w => sameLetters v w = true) (runs isWordChar s) (runs isWordChar t) := by
  have hMap := map_runs_of_sameLetters h
  rw [← List.forall₂_eq_eq_eq, List.forall₂_map_left_iff, List.forall₂_map_right_iff] at hMap
  exact hMap.imp fun _ _ => sameLetters_iff.mpr

theorem stripFillers?_eq (text : List Char) :
    stripFillers? text =
      if hits (parts findFiller text) = [] then none
      else some (tidy (dropFillers none false (parts findFiller text)),
        (hits (parts findFiller text)).length) := by
  rw [stripFillers?]
  split
  · rename_i hLength
    rw [if_pos (List.length_eq_zero_iff.mp hLength)]
  · rename_i hLength
    rw [if_neg (mt List.length_eq_zero_iff.mpr hLength)]

/-- There is one way to take a text apart, and no word is in part in a filler. If no filler stands
anywhere there is no result. Otherwise the count is that of the fillers; the result is the text
between them; and its words are the words between them. -/
theorem stripFillers?_drops_fillers_only (hText : IsAscii text) :
    ∃ ps, (∀ ps', TakenApart none text ps' ↔ ps' = ps) ∧
      (text = lead ps ++ (matched ps).flatMap fun m => m.1 ++ m.2) ∧
      (runs isWordChar text = runs isWordChar (lead ps) ++
        (matched ps).flatMap fun m => runs isWordChar m.1 ++ runs isWordChar m.2) ∧
      (stripFillers? text = none ↔ ∀ front back found rest, text = front ++ back →
        ¬FillerAt front.getLast? back found rest) ∧
      ∀ out n, stripFillers? text = some (out, n) →
        n = (matched ps).length ∧
        sameLetters (solid out) (solid (lead ps ++ (matched ps).flatMap (·.2))) = true ∧
        List.Forall₂ (fun v w => sameLetters v w = true) (runs isWordChar out)
          (runs isWordChar (lead ps) ++ (matched ps).flatMap fun m => runs isWordChar m.2) := by
  have hApart : TakenApart none text (parts findFiller text) := takenApart_iff.mpr rfl
  refine ⟨parts findFiller text, fun ps' => takenApart_iff, hApart.eq_lead_append, ?_, ?_, ?_⟩
  · rw [← hApart.runs_matched.2, ← runs_append (hApart.parted_lead _), ← hApart.eq_lead_append]
  · rw [stripFillers?_eq, ite_eq_left_iff]
    simp only [reduceCtorEq, imp_false, not_not]
    rw [hits_parts_eq_nil_iff]
    constructor
    · intro h front back found rest hSplit hFiller
      have hBack : back ≠ [] := by
        rintro rfl
        exact absurd hFiller.length_rest_lt (Nat.not_lt_zero _)
      exact findFiller_eq_none_iff.mp (h front back hSplit hBack) found rest hFiller
    · intro h front back hSplit _
      exact findFiller_eq_none_iff.mpr fun found rest => h front back found rest hSplit
  · intro out n hOut
    rw [stripFillers?_eq] at hOut
    split at hOut
    · cases hOut
    cases hOut
    have hPlain : ∀ c, .plain c ∈ parts findFiller text → c.toNat < 128 :=
      fun c hMem => hText c (mem_of_plain_mem_parts findFiller_spells hMem)
    have hSame := sameLetters_dropFillers hPlain none false
    rw [rebuild_eq_lead_append] at hSame
    refine ⟨(length_matched _).symm, ?_, ?_⟩
    · rw [solid_tidy]
      exact sameLetters_solid hSame
    · rw [runs_tidy, ← hApart.runs_matched.1, ← runs_append (hApart.parted_lead _)]
      exact forall₂_runs_of_sameLetters hSame

theorem stripFillers?_drops_fillers_only_basically :
    IsAscii "Basically, I just (just, you know) wait.".toList ∧
      stripFillers? "Basically, I just (just, you know) wait.".toList =
        some ("I ( ) wait.".toList, 4) ∧
      ∃ ps, TakenApart none "Basically, I just (just, you know) wait.".toList ps ∧
        (matched ps).length = 4 ∧
        sameLetters (solid "I ( ) wait.".toList)
          (solid (lead ps ++ (matched ps).flatMap (·.2))) = true ∧
        List.Forall₂ (fun v w => sameLetters v w = true) (runs isWordChar "I ( ) wait.".toList)
          (runs isWordChar (lead ps) ++ (matched ps).flatMap fun m => runs isWordChar m.2) := by
  have hText : IsAscii "Basically, I just (just, you know) wait.".toList := by decide
  have hOut : stripFillers? "Basically, I just (just, you know) wait.".toList =
      some ("I ( ) wait.".toList, 4) := by decide +kernel
  obtain ⟨ps, hApart, -, -, -, hResult⟩ := stripFillers?_drops_fillers_only hText
  obtain ⟨hCount, hSolid, hWords⟩ := hResult _ _ hOut
  exact ⟨hText, hOut, ps, (hApart ps).mpr rfl, hCount.symm, hSolid, hWords⟩

end Household.Reply
