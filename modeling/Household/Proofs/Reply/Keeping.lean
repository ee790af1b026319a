import Household.Proofs.Reply.Avoiding
import Household.Proofs.Reply.Exclaiming
import Household.Proofs.Reply.Masks
import Household.Proofs.Reply.Rewriting
import Household.Proofs.Reply.Tidying

/-! # The words that passes leave

Each word of a text that a pass leaves is one of the text that it was given, up to case, or one
that no mask covers. The capital that a dropped filler hands on could bring word characters into a
text that is not ASCII, so this is shown of ASCII texts; the passes before it leave them ASCII.
-/

set_option autoImplicit false

namespace Household.Reply

open Household.Text

variable {s t u text w : List Char}

/-! ## Words of one text from another -/

def WordsFrom (s t : List Char) : Prop :=
  ∀ w ∈ runs isWordChar t,
    isHarmless w = true ∨ ∃ v ∈ runs isWordChar s, sameLetters w v = true

namespace WordsFrom

theorem of_runs (h : ∀ w ∈ runs isWordChar t, w ∈ runs isWordChar s) : WordsFrom s t :=
  fun w hw => .inr ⟨w, h w hw, sameLetters_refl w⟩

theorem of_runs_eq (h : runs isWordChar t = runs isWordChar s) : WordsFrom s t :=
  of_runs fun _ hw => h ▸ hw

theorem trans (hst : WordsFrom s t) (htu : WordsFrom t u) : WordsFrom s u := by
  intro w hw
  rcases htu w hw with hHarmless | ⟨v, hv, hwv⟩
  · exact .inl hHarmless
  · rcases hst v hv with hHarmless | ⟨x, hx, hvx⟩
    · exact .inl ((isHarmless_congr hwv).trans hHarmless)
    · exact .inr ⟨x, hx, sameLetters_trans hwv hvx⟩

end WordsFrom

/-! ## Passes -/

/-- The text after a pass, whether it changed it or not. -/
def leaves (pass : List Char → Option Edit) (text : List Char) : List Char :=
  ((pass text).map Edit.text).getD text

theorem leaves_of_none {pass : List Char → Option Edit} (h : pass text = none) :
    leaves pass text = text := by
  rw [leaves, h]
  rfl

theorem leaves_of_some {pass : List Char → Option Edit} {e : Edit} (h : pass text = some e) :
    leaves pass text = e.text := by
  rw [leaves, h]
  rfl

theorem leaves_runAll_cons (pass : List Char → Option Edit)
    (passes : List (List Char → Option Edit)) (text : List Char) :
    leaves (runAll (pass :: passes)) text = leaves (runAll passes) (leaves pass text) := by
  rw [leaves, runAll]
  cases hPass : pass text with
  | none => rw [leaves_of_none hPass, leaves]
  | some first =>
    rw [leaves_of_some hPass, leaves]
    dsimp only
    cases runAll passes first.text <;> rfl

theorem leaves_runAll_append (earlier later : List (List Char → Option Edit)) (text : List Char) :
    leaves (runAll (earlier ++ later)) text =
      leaves (runAll later) (leaves (runAll earlier) text) := by
  induction earlier generalizing text with
  | nil => rfl
  | cons pass passes ih => rw [List.cons_append, leaves_runAll_cons, leaves_runAll_cons, ih]

section Keeps

variable {P : List Char → Prop} {pass : List Char → Option Edit}
  {passes : List (List Char → Option Edit)}

theorem keeps_runAll (h : ∀ pass ∈ passes, ∀ text, P text → P (leaves pass text)) :
    P text → P (leaves (runAll passes) text) := by
  intro hText
  induction passes generalizing text with
  | nil => exact hText
  | cons pass passes ih =>
    rw [leaves_runAll_cons]
    exact ih (fun later hMem => h later (List.mem_cons_of_mem _ hMem))
      (h pass List.mem_cons_self text hText)

/-- What one of several passes brings about and all of them keep holds of the text they leave. -/
theorem holds_of_mem (hMem : pass ∈ passes) (hMakes : ∀ text, P (leaves pass text))
    (hKeeps : ∀ pass ∈ passes, ∀ text, P text → P (leaves pass text)) (text : List Char) :
    P (leaves (runAll passes) text) := by
  obtain ⟨earlier, later, rfl⟩ := List.append_of_mem hMem
  rw [leaves_runAll_append, leaves_runAll_cons]
  refine keeps_runAll (fun pass hLater => hKeeps pass ?_) (hMakes _)
  exact List.mem_append_right _ (List.mem_cons_of_mem _ hLater)

end Keeps

section Rebuild

variable {α : Type} {find : Finder α} {r : α → List Char → List Char}

theorem wordsFrom_rebuild (hFind : find.Whole)
    (hClosed : ∀ before text hit, find before text = some hit →
      r hit.label hit.found = [] ∨ hit.rest.head?.any isWordChar = false)
    (hHit : ∀ before text hit, find before text = some hit →
      ∀ w ∈ runs isWordChar (r hit.label hit.found), isHarmless w = true) (text : List Char) :
    WordsFrom text (rebuild r (parts find text)) := by
  refine forall_mem_runs_rebuild
    (P := fun w => isHarmless w = true ∨ ∃ v ∈ runs isWordChar text, sameLetters w v = true)
    hFind hClosed ?_ ?_
  · intro before later hit hFound w hw
    exact .inl (hHit before later hit hFound w hw)
  · rintro earlier later rfl hBefore - hNe
    have hWord := mem_runs_append List.all_takeWhile hNe hBefore (any_head?_dropWhile isWordChar later)
    rw [List.append_assoc, List.takeWhile_append_dropWhile] at hWord
    exact .inr ⟨_, hWord, sameLetters_refl _⟩

theorem mem_of_plain_mem_parts (hFind : find.Spells) {c : Char} (h : .plain c ∈ parts find text) :
    c ∈ text := by
  rw [← flatMap_source_parts hFind text]
  exact List.mem_flatMap.mpr ⟨.plain c, h, List.mem_singleton_self c⟩

theorem rebuild_of_hits_eq_nil {ps : List (Part α)} (h : hits ps = []) :
    rebuild r ps = ps.flatMap Part.source := by
  induction ps with
  | nil => rfl
  | cons part ps ih =>
    cases part with
    | plain c => rw [rebuild_plain, ih h, List.flatMap_cons, Part.source]
    | found a text => cases h

theorem rebuild_eq_self (hFind : find.Spells) (h : hits (parts find text) = []) :
    rebuild r (parts find text) = text := by
  rw [rebuild_of_hits_eq_nil h, flatMap_source_parts hFind]

end Rebuild

/-! ## Tables -/

theorem sameLetters_matchCase {replacement : List Char} (found : List Char)
    (h : IsAscii replacement) : sameLetters (matchCase found replacement) replacement = true := by
  rw [matchCase]
  split
  · exact sameLetters_uppercase h
  · split
    · exact sameLetters_capitalize h
    · exact sameLetters_refl replacement

theorem harmless_matchCase {replacement : List Char} (found : List Char) (h : IsAscii replacement)
    (hHarmless : ∀ w ∈ runs isWordChar replacement, isHarmless w = true) :
    ∀ w ∈ runs isWordChar (matchCase found replacement), isHarmless w = true := by
  intro w hw
  obtain ⟨v, hv, hSame⟩ := exists_mem_runs_of_sameLetters (sameLetters_matchCase found h) hw
  rw [isHarmless_congr hSame]
  exact hHarmless v hv

namespace WordTable

variable {table : WordTable} {pairs : List (String × String)}

theorem leaves_pass (pairs : List (String × String)) (verb : String) (text : List Char) :
    leaves ((ofPairs pairs).pass verb) text =
      rebuild (fun e found => matchCase found e.replacement.toList)
        (parts (ofPairs pairs).find text) := by
  cases hPass : (ofPairs pairs).pass verb text with
  | none =>
    rw [leaves_of_none hPass, rebuild_eq_self (find_spells _) (pass_eq_none_iff.mp hPass)]
  | some e => rw [leaves_of_some hPass, (pass_eq_some hPass).1]

theorem mem_of_mem_hits {e : WordEntry} {found : List Char}
    (h : (e, found) ∈ hits (parts table.find text)) : e ∈ table := by
  obtain ⟨before, later, rest, hFind⟩ := exists_of_mem_hits_scan h
  exact (exists_of_find hFind).1

/-- A word and its replacement in a table that leaves words whole and puts in harmless ones. -/
def IsFit (pair : String × String) : Prop :=
  IsWordlike (normalWord (trim pair.1.toList)) ∧ IsAscii pair.2.toList ∧
    ∀ w ∈ runs isWordChar pair.2.toList, isHarmless w = true

instance (pair : String × String) : Decidable (IsFit pair) :=
  inferInstanceAs (Decidable (_ ∧ _ ∧ _))

theorem wordsFrom_leaves_pass (h : ∀ pair ∈ pairs, IsFit pair) (verb : String)
    (text : List Char) : WordsFrom text (leaves ((ofPairs pairs).pass verb) text) := by
  have hTable : ∀ e ∈ ofPairs pairs, IsWordlike e.word := by
    intro e he
    obtain ⟨pair, hPair, -, rfl⟩ := mem_ofPairs he
    exact (h pair hPair).1
  rw [leaves_pass]
  apply wordsFrom_rebuild (find_whole hTable)
  · intro before later hit hHit
    exact .inr (takesWords_of_find hTable hHit).ends
  · intro before later hit hHit
    obtain ⟨pair, hPair, -, hEntry⟩ := mem_ofPairs (exists_of_find hHit).1
    rw [hEntry]
    exact harmless_matchCase hit.found (h pair hPair).2.1 (h pair hPair).2.2

end WordTable

/-! ## Restrictions -/

namespace Category

theorem isFit_of_mem_words : ∀ c ∈ categories, ∀ pair ∈ c.words, WordTable.IsFit pair := by
  decide +kernel

theorem leaves_mask? (c : Category) (text : List Char) :
    leaves c.mask? text =
      rebuild (fun _ _ => redaction.toList) (parts (findWord c.covers) text) := by
  cases hMask : c.mask? text with
  | none =>
    rw [leaves_of_none hMask, rebuild_eq_self (findWord_spells _) (mask?_eq_none_iff.mp hMask)]
  | some e => rw [leaves_of_some hMask, (mask?_eq_some hMask).1]

theorem ends_of_findWord {covers : List Char → Bool} {before : Option Char} {hit : Hit Unit}
    (h : findWord covers before text = some hit) : hit.rest.head?.any isWordChar = false := by
  obtain ⟨-, -, -, -, hRest⟩ := findWord_eq_some_iff.mp h
  rw [hRest]
  exact any_head?_dropWhile isWordChar text

theorem isHarmless_redaction : ∀ w ∈ runs isWordChar redaction.toList, isHarmless w = true := by
  decide +kernel

theorem wordsFrom_mask? (c : Category) (text : List Char) :
    WordsFrom text (leaves c.mask? text) := by
  rw [leaves_mask?]
  exact wordsFrom_rebuild (findWord_whole _) (fun _ _ _ hHit => .inr (ends_of_findWord hHit))
    (fun _ _ _ _ => isHarmless_redaction) text

end Category

theorem mem_categories_of_category? {name : String} {c : Category} (h : category? name = some c) :
    c ∈ categories :=
  List.mem_of_find?_eq_some h

theorem replaceWords?_nil (text : List Char) : replaceWords? [] text = none := by
  rw [replaceWords?_eq_pass, WordTable.pass_eq_none_iff, List.eq_nil_iff_forall_not_mem]
  rintro ⟨e, found⟩ hMem
  obtain ⟨pair, hPair, -⟩ := mem_ofPairs (WordTable.mem_of_mem_hits hMem)
  exact List.not_mem_nil hPair

theorem wordsFrom_of_mem_filter (restrictions : NameSet) :
    ∀ pass ∈ categoryPasses restrictions ++ [replaceWords? []],
      ∀ text, WordsFrom text (leaves pass text) := by
  intro pass hMem text
  rcases mem_filter_iff.mp hMem with ⟨_, _, c, hc, rfl | rfl⟩ | rfl
  · exact c.wordsFrom_mask? text
  · have hFit := Category.isFit_of_mem_words c (mem_categories_of_category? hc)
    rw [soften?_eq_pass]
    exact WordTable.wordsFrom_leaves_pass hFit _ text
  · rw [leaves_of_none (replaceWords?_nil text)]
    exact WordsFrom.of_runs_eq rfl

/-! ## Passes before the restrictions -/

theorem sameLetters_dropFillers {ps : List (Part Unit)}
    (h : ∀ c, .plain c ∈ ps → c.toNat < 128) (last : Option Char) (raise : Bool) :
    sameLetters (dropFillers last raise ps) (rebuild (fun _ _ => []) ps) = true := by
  induction ps generalizing last raise with
  | nil => rfl
  | cons part rest ih =>
    have hRest : ∀ c, .plain c ∈ rest → c.toNat < 128 :=
      fun c hMem => h c (List.mem_cons_of_mem _ hMem)
    cases part with
    | plain c =>
      have hKept := fun last raise => sameLetters_append (sameLetters_refl [c]) (ih hRest last raise)
      rw [dropFillers, rebuild_plain]
      split
      · exact hKept _ _
      · split
        · exact sameLetters_append (sameLetters_upperForm (h c List.mem_cons_self)) (ih hRest _ _)
        · exact hKept _ _
    | found a filler =>
      rw [dropFillers, rebuild_found, List.nil_append]
      exact ih hRest _ _

end Household.Reply
