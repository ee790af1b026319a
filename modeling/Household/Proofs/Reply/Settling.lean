import Household.Proofs.Reply.Hiding
import Household.Proofs.Reply.Overlaps
import Household.Proofs.Reply.Replacing

/-! # Passes that leave nothing to a second

What the built-in tables and the masks put in forms no word of a table with the text around it. So
no word that a pass looks for stands in the text it makes, and no later pass over the restrictions
brings one back.
-/

set_option autoImplicit false

namespace Household.Reply

open Household.Text

variable {pairs : List (String × String)} {word text : List Char} {verb : String} {c : Category}

/-! ## Words that do not stand in a text -/

/-- A word as a table keeps it, with word characters at its start and its end. -/
structure IsKeyword (word : List Char) : Prop where
  normal : normalWord (trim word) = word
  wordlike : IsWordlike word

instance (word : List Char) : Decidable (IsKeyword word) :=
  decidable_of_iff (normalWord (trim word) = word ∧ IsWordlike word)
    ⟨fun h => ⟨h.1, h.2⟩, fun h => ⟨h.1, h.2⟩⟩

namespace IsKeyword

theorem straight (h : IsKeyword word) : ∀ k ∈ word, k ≠ '’' := by
  intro k hk
  rw [← h.normal] at hk
  exact (isNormal_of_mem_normalWord hk).straight

theorem not_blank (h : IsKeyword word) : isBlank word = false := by
  obtain ⟨c, hc, hcWord⟩ := (Option.any_eq_true _ _).mp h.wordlike.1
  rw [Bool.eq_false_iff]
  intro hBlank
  have hSpace := List.all_eq_true.mp hBlank c (List.mem_of_head? hc)
  rw [isWordChar_eq_false_of_isSpace hSpace] at hcWord
  cases hcWord

theorem absent_iff (h : IsKeyword word) : Absent word none text ↔ ¬StandsIn word text := by
  have hHere (before : Option Char) (back : List Char) :
      (∃ found rest, StandsAt UpToApostrophes word before back found rest) ↔
        isWordAt before = false ∧ leads word back = true := by
    rw [← isSome_matchPhrase_iff_leads h.wordlike, Option.isSome_iff_exists, Prod.exists]
    exact exists₂_congr fun _ _ => (matchPhrase_sameInTable_iff h.straight).symm
  constructor
  · rintro hAbsent ⟨front, back, found, rest, hText, hStands⟩
    obtain ⟨hOpen, hLeads⟩ := (hHere _ _).mp ⟨found, rest, hStands⟩
    rw [hAbsent front back hText (Option.or_none.symm ▸ hOpen)] at hLeads
    cases hLeads
  · intro hNowhere front back hText hOpen
    rw [Option.or_none] at hOpen
    by_contra hLeads
    obtain ⟨found, rest, hStands⟩ := (hHere _ _).mpr ⟨hOpen, Bool.not_eq_false _ ▸ hLeads⟩
    exact hNowhere ⟨front, back, found, rest, hText, hStands⟩

end IsKeyword

/-! ## Tables -/

/-- A table whose replacements form none of its words with anything around them. -/
structure IsSettling (pairs : List (String × String)) : Prop where
  keyword : ∀ pair ∈ pairs, IsKeyword pair.1.toList
  ascii : ∀ pair ∈ pairs, IsAscii pair.2.toList
  isApart : (pairs.all fun pair => pairs.all fun other => apart pair.1.toList other.2.toList) = true

instance (pairs : List (String × String)) : Decidable (IsSettling pairs) :=
  decidable_of_iff ((∀ pair ∈ pairs, IsKeyword pair.1.toList) ∧
      (∀ pair ∈ pairs, IsAscii pair.2.toList) ∧
        (pairs.all fun pair => pairs.all fun other => apart pair.1.toList other.2.toList) = true)
    ⟨fun h => ⟨h.1, h.2.1, h.2.2⟩, fun h => ⟨h.1, h.2, h.3⟩⟩

/-- No word of the pairs stands in the text. -/
def Quiet (pairs : List (String × String)) (text : List Char) : Prop :=
  ∀ pair ∈ pairs, ¬StandsIn pair.1.toList text

namespace IsSettling

variable {known : List (String × String)} (hKnown : IsSettling known)
  (hPairs : ∀ pair ∈ pairs, pair ∈ known)

include hKnown hPairs

theorem exists_pair {e : WordEntry} (he : e ∈ WordTable.ofPairs pairs) :
    ∃ pair ∈ pairs, e = ⟨pair.1.toList, pair.2⟩ := by
  obtain ⟨pair, hPair, -, rfl⟩ := mem_ofPairs he
  exact ⟨pair, hPair, by rw [(hKnown.keyword pair (hPairs pair hPair)).normal]⟩

theorem exists_entry {pair : String × String} (hPair : pair ∈ pairs) :
    ∃ e ∈ WordTable.ofPairs pairs, e.word = pair.1.toList := by
  have hKeyword := hKnown.keyword pair (hPairs pair hPair)
  obtain ⟨replacement, hReplacement⟩ : ∃ replacement,
      replacement? pairs pair.1.toList = some replacement := by
    rw [← Option.isSome_iff_exists, replacement?, Option.isSome_map, List.find?_isSome]
    refine ⟨pair, List.mem_reverse.mpr hPair, ?_⟩
    rw [hKeyword.not_blank, hKeyword.normal, beq_self_eq_true]
    rfl
  exact ⟨⟨pair.1.toList, replacement⟩, mem_ofPairs_iff.mpr hReplacement, rfl⟩

theorem isWordlike_of_mem {e : WordEntry} (he : e ∈ WordTable.ofPairs pairs) :
    IsWordlike e.word := by
  obtain ⟨pair, hPair, rfl⟩ := hKnown.exists_pair hPairs he
  exact (hKnown.keyword pair (hPairs pair hPair)).wordlike

theorem absent_leaves_pass {word : String × String} (hWord : word ∈ known)
    (hMiss : ∀ front back, text = front ++ back →
      (WordTable.ofPairs pairs).find front.getLast? back = none →
        isWordAt front.getLast? = false → leads word.1.toList back = false) :
    Absent word.1.toList none (leaves ((WordTable.ofPairs pairs).pass verb) text) := by
  have hTable : ∀ e ∈ WordTable.ofPairs pairs, IsWordlike e.word :=
    fun _ he => hKnown.isWordlike_of_mem hPairs he
  rw [WordTable.leaves_pass]
  refine absent_rebuild (WordTable.find_whole hTable) (fun _ _ _ hHit => ?_)
    (hKnown.keyword word hWord).wordlike (fun _ _ hit hHit => ?_) hMiss
  · rw [isWordAt_eq_any]
    exact (WordTable.takesWords_of_find hTable hHit).ends
  · obtain ⟨pair, hPair, hEntry⟩ := hKnown.exists_pair hPairs (WordTable.exists_of_find hHit).1
    have hSame := sameLetters_matchCase hit.found (hKnown.ascii pair (hPairs pair hPair))
    rw [hEntry, apart_congr hSame]
    exact List.all_eq_true.mp (List.all_eq_true.mp hKnown.isApart word hWord) pair
      (hPairs pair hPair)

/-- A pass leaves no word of its own table. -/
theorem quiet_leaves_pass (verb : String) (text : List Char) :
    Quiet pairs (leaves ((WordTable.ofPairs pairs).pass verb) text) := by
  intro pair hPair
  have hKeyword := hKnown.keyword pair (hPairs pair hPair)
  rw [← hKeyword.absent_iff]
  refine hKnown.absent_leaves_pass hPairs (hPairs pair hPair) fun front back hText hNone hOpen => ?_
  obtain ⟨e, he, hWord⟩ := hKnown.exists_entry hPairs hPair
  have hHere := Option.map_eq_none_iff.mp (List.findSome?_eq_none_iff.mp hNone e he)
  by_contra hLeads
  have hSome := (isSome_matchPhrase_iff_leads hKeyword.wordlike).mpr
    ⟨hOpen, Bool.not_eq_false _ ▸ hLeads⟩
  rw [← hWord, hHere] at hSome
  cases hSome

/-- A pass brings back no word of a table that settles together with its own. -/
theorem quiet_leaves_pass_of_quiet {own : List (String × String)}
    (hOwn : ∀ pair ∈ own, pair ∈ known) (h : Quiet own text) :
    Quiet own (leaves ((WordTable.ofPairs pairs).pass verb) text) := by
  intro word hMem
  have hKeyword := hKnown.keyword word (hOwn word hMem)
  have hAbsent := hKeyword.absent_iff.mpr (h word hMem)
  rw [← hKeyword.absent_iff]
  refine hKnown.absent_leaves_pass hPairs (hOwn word hMem) fun front back hText _ hOpen => ?_
  exact hAbsent front back hText (Option.or_none.symm ▸ hOpen)

theorem pass_eq_none_iff_quiet :
    (WordTable.ofPairs pairs).pass verb text = none ↔ Quiet pairs text := by
  rw [WordTable.pass_eq_none_iff, hits_parts_eq_nil_iff_standsIn]
  constructor
  · intro h pair hPair
    obtain ⟨e, he, hWord⟩ := hKnown.exists_entry hPairs hPair
    rw [← hWord]
    exact h e (mem_ofPairs_iff.mp he)
  · intro h e hListed
    obtain ⟨pair, hPair, rfl⟩ := hKnown.exists_pair hPairs (mem_ofPairs_iff.mpr hListed)
    exact h pair hPair

theorem settles (verb : String) (text : List Char) :
    (WordTable.ofPairs pairs).pass verb (leaves ((WordTable.ofPairs pairs).pass verb) text) = none ∧
      Quiet pairs (leaves ((WordTable.ofPairs pairs).pass verb) text) := by
  have hQuiet := hKnown.quiet_leaves_pass hPairs verb text
  exact ⟨(hKnown.pass_eq_none_iff_quiet hPairs).mpr hQuiet, hQuiet⟩

end IsSettling

def allWords : List (String × String) := (Choice.all : List VocabularyLevel).flatMap ownWords

def restrictedWords : List (String × String) := categories.flatMap Category.words

/-- The built-in tables settle, and the mask forms no restricted word. -/
theorem builtIn_settles :
    IsSettling contractions ∧ IsSettling allWords ∧ IsSettling restrictedWords ∧
      ∀ pair ∈ restrictedWords, apart pair.1.toList redaction.toList = true := by
  decide +kernel

theorem isSettling_contractions : IsSettling contractions := builtIn_settles.1

theorem isSettling_allWords : IsSettling allWords := builtIn_settles.2.1

theorem isSettling_restrictedWords : IsSettling restrictedWords := builtIn_settles.2.2.1

theorem apart_redaction : ∀ pair ∈ restrictedWords, apart pair.1.toList redaction.toList = true :=
  builtIn_settles.2.2.2

/-! ## Levels of vocabulary -/

variable {level own : VocabularyLevel}

theorem mem_allWords {pair : String × String} (h : pair ∈ levelWords level) : pair ∈ allWords := by
  obtain ⟨own, hOwn, hPair⟩ := List.mem_flatMap.mp (Keyed.mem_of_mem_ofList h)
  exact List.mem_flatMap.mpr ⟨own, (List.mem_filter.mp hOwn).1, hPair⟩

theorem exists_mem_levelWords (hLevel : own.strictness ≤ level.strictness) {pair : String × String}
    (h : pair ∈ ownWords own) : ∃ replacement, (pair.1, replacement) ∈ levelWords level := by
  have hOwn : own ∈ (Choice.all : List VocabularyLevel).filter (·.strictness ≤ level.strictness) :=
    List.mem_filter.mpr ⟨by cases own <;> decide, decide_eq_true hLevel⟩
  exact Keyed.exists_mem_ofList (List.mem_flatMap.mpr ⟨own, hOwn, h⟩)

/-! ## Restrictions -/

theorem mem_restrictedWords (hc : c ∈ categories) : ∀ pair ∈ c.words, pair ∈ restrictedWords :=
  fun _ hPair => List.mem_flatMap.mpr ⟨c, hc, hPair⟩

theorem quiet_leaves_mask? {own : List (String × String)}
    (hOwn : ∀ pair ∈ own, pair ∈ restrictedWords) (c : Category) (h : Quiet own text) :
    Quiet own (leaves c.mask? text) := by
  intro word hMem
  have hKeyword := isSettling_restrictedWords.keyword word (hOwn word hMem)
  have hAbsent := hKeyword.absent_iff.mpr (h word hMem)
  rw [← hKeyword.absent_iff, Category.leaves_mask?]
  refine absent_rebuild (findWord_whole _) (fun _ _ _ hHit => ?_) hKeyword.wordlike
    (fun _ _ _ _ => apart_redaction word (hOwn word hMem)) fun front back hText _ hOpen => ?_
  · rw [isWordAt_eq_any]
    exact Category.ends_of_findWord hHit
  · exact hAbsent front back hText (Option.or_none.symm ▸ hOpen)

/-- No pass of the filter brings back a word of a category. -/
theorem quiet_leaves_of_mem_filter (hc : c ∈ categories) (restrictions : NameSet) :
    ∀ pass ∈ categoryPasses restrictions ++ [replaceWords? []],
      ∀ text, Quiet c.words text → Quiet c.words (leaves pass text) := by
  intro pass hMem text hQuiet
  rcases mem_filter_iff.mp hMem with ⟨_, _, other, hOther, rfl | rfl⟩ | rfl
  · exact quiet_leaves_mask? (mem_restrictedWords hc) other hQuiet
  · have hWords := mem_restrictedWords (mem_categories_of_category? hOther)
    rw [soften?_eq_pass]
    exact isSettling_restrictedWords.quiet_leaves_pass_of_quiet hWords (mem_restrictedWords hc) hQuiet
  · rw [leaves_of_none (replaceWords?_nil text)]
    exact hQuiet

theorem quiet_filter? {restrictions : NameSet} {name : String} (hName : name ∈ restrictions)
    (hc : category? name = some c) (text : List Char) :
    Quiet c.words (leaves (filter? restrictions []) text) := by
  have hKnown := mem_categories_of_category? hc
  have hSoften : c.soften? ∈ categoryPasses restrictions ++ [replaceWords? []] :=
    mem_filter_iff.mpr (.inl ⟨name, hName, c, hc, .inr rfl⟩)
  refine holds_of_mem hSoften (fun text => ?_) (quiet_leaves_of_mem_filter hKnown restrictions) text
  rw [soften?_eq_pass]
  exact isSettling_restrictedWords.quiet_leaves_pass (mem_restrictedWords hKnown) _ text

theorem mask?_eq_none_of_clean (h : Clean c text) : c.mask? text = none := by
  rw [Category.mask?_eq_none_iff, hits_parts_eq_nil_iff]
  intro front back hText _
  by_contra hSome
  obtain ⟨hit, hHit⟩ := Option.ne_none_iff_exists'.mp hSome
  obtain ⟨hOpen, hFound, hNe, hCovers, hRest⟩ := findWord_eq_some_iff.mp hHit
  have hWord : hit.found ∈ runs isWordChar text := by
    rw [hText, findWord_spells _ _ _ _ hHit, ← List.append_assoc]
    refine mem_runs_append (hFound ▸ List.all_takeWhile) hNe (isWordAt_eq_any _ ▸ hOpen) ?_
    exact Category.ends_of_findWord hHit
  rw [h _ hWord] at hCovers
  cases hCovers

theorem filter?_eq_none {restrictions : NameSet}
    (h : ∀ name ∈ restrictions, ∀ c, category? name = some c → Clean c text ∧ Quiet c.words text) :
    filter? restrictions [] text = none := by
  refine runAll_eq_none_iff.mpr fun pass hMem => ?_
  rcases mem_filter_iff.mp hMem with ⟨name, hName, c, hc, rfl | rfl⟩ | rfl
  · exact mask?_eq_none_of_clean (h name hName c hc).1
  · rw [soften?_eq_pass]
    have hWords := mem_restrictedWords (mem_categories_of_category? hc)
    exact (isSettling_restrictedWords.pass_eq_none_iff_quiet hWords).mpr (h name hName c hc).2
  · exact replaceWords?_nil text

/-- What simpler words, a filter without words of its own, and a formal style leave of a text they
do not change again. No word of the level or a level before it, no mask and no word of a restricted
category, and no contraction stands in it. -/
theorem built_in_passes_settle (text : List Char) :
    (∀ level, simplify? level (leaves (simplify? level) text) = none ∧
      ∀ own : VocabularyLevel, own.strictness ≤ level.strictness →
        Quiet (ownWords own) (leaves (simplify? level) text)) ∧
    (∀ restrictions, filter? restrictions [] (leaves (filter? restrictions []) text) = none ∧
      ∀ name ∈ restrictions, ∀ c, category? name = some c →
        (∀ m ∈ c.masks, ¬m.StandsIn (leaves (filter? restrictions []) text)) ∧
          Quiet c.words (leaves (filter? restrictions []) text)) ∧
    style? .formal (leaves (style? .formal) text) = none ∧
      Quiet contractions (leaves (style? .formal) text) := by
  refine ⟨fun level => ?_, fun restrictions => ?_, ?_⟩
  · rw [simplify?_eq_pass]
    obtain ⟨hNone, hQuiet⟩ :=
      isSettling_allWords.settles (fun pair => @mem_allWords level pair) "simplified" text
    refine ⟨hNone, fun own hLevel pair hPair => ?_⟩
    obtain ⟨replacement, hMem⟩ := exists_mem_levelWords hLevel hPair
    exact hQuiet (pair.1, replacement) hMem
  · have hSettled : ∀ name ∈ restrictions, ∀ c, category? name = some c →
        Clean c (leaves (filter? restrictions []) text) ∧
          Quiet c.words (leaves (filter? restrictions []) text) :=
      fun name hName c hc => ⟨clean_filter? hName hc text, quiet_filter? hName hc text⟩
    refine ⟨filter?_eq_none hSettled, fun name hName c hc => ⟨fun m hm => ?_, ?_⟩⟩
    · exact not_standsIn_of_clean (mem_categories_of_category? hc) hm (hSettled name hName c hc).1
    · exact (hSettled name hName c hc).2
  · exact isSettling_contractions.settles (fun _ hPair => hPair) "expanded" text

theorem exists_settled {pass : List Char → Option Edit} (hChanges : pass text ≠ none)
    (hSettles : pass (leaves pass text) = none) :
    ∃ e, pass text = some e ∧ e.text ≠ text ∧ pass e.text = none := by
  obtain ⟨e, he⟩ := Option.ne_none_iff_exists'.mp hChanges
  rw [leaves_of_some he] at hSettles
  exact ⟨e, he, fun hSame => hChanges (hSame ▸ hSettles), hSettles⟩

def quarrel : List Char := "We don't utilize guns in a fight.".toList

/-- One text that each of the three passes changes, and does not change again. -/
theorem built_in_passes_settle_quarrel :
    (∃ e, simplify? .simple quarrel = some e ∧ e.text ≠ quarrel ∧
      simplify? .simple e.text = none) ∧
    (∃ e, filter? ["violence"] [] quarrel = some e ∧ e.text ≠ quarrel ∧
      filter? ["violence"] [] e.text = none) ∧
    ∃ e, style? .formal quarrel = some e ∧ e.text ≠ quarrel ∧ style? .formal e.text = none := by
  have hWord : matchPhrase sameInTable "utilize".toList "We don't ".toList.getLast?
      "utilize guns in a fight.".toList =
        some ("utilize".toList, " guns in a fight.".toList) := by decide
  have hContraction : matchPhrase sameInTable "don't".toList "We ".toList.getLast?
      "don't utilize guns in a fight.".toList =
        some ("don't".toList, " utilize guns in a fight.".toList) := by decide
  obtain ⟨hSimplify, hFilter, hFormal, -⟩ := built_in_passes_settle quarrel
  refine ⟨exists_settled (fun hNone => ?_) (hSimplify .simple).1,
    exists_settled (fun hNone => ?_) (hFilter ["violence"]).1,
    exists_settled (fun hNone => ?_) hFormal⟩
  · obtain ⟨replacement, hMem⟩ := @exists_mem_levelWords .simple .simple (Nat.le_refl _)
      ("utilize", "use") (by decide)
    rw [simplify?_eq_pass, isSettling_allWords.pass_eq_none_iff_quiet
      fun _ hPair => mem_allWords hPair] at hNone
    have hKeyword := isSettling_allWords.keyword _ (mem_allWords hMem)
    exact hNone _ hMem
      ⟨_, _, _, _, by decide, (matchPhrase_sameInTable_iff hKeyword.straight).mp hWord⟩
  · have hMask := runAll_eq_none_iff.mp hNone violence.mask? <|
      mem_filter_iff.mpr (.inl ⟨"violence", by decide, violence, rfl, .inl rfl⟩)
    revert hMask
    decide
  · have hMem : ("don't", "do not") ∈ contractions := by decide
    have hQuiet := (isSettling_contractions.pass_eq_none_iff_quiet fun _ hPair => hPair).mp hNone
    have hKeyword := isSettling_contractions.keyword _ hMem
    exact hQuiet _ hMem
      ⟨_, _, _, _, by decide, (matchPhrase_sameInTable_iff hKeyword.straight).mp hContraction⟩

end Household.Reply
