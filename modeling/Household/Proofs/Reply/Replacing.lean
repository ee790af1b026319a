import Household.Proofs.Reply.Ranges
import Household.Proofs.Reply.Rewriting

/-! # Replacing by the longest word at the leftmost place

What a table of words makes of a text, said without a table and without a search: from left to
right, a place where no listed word stands keeps its character, and where some stand the longest is
replaced and the reading goes on after it. There is one such result for every text, and the table
arrives at it.
-/

set_option autoImplicit false

namespace Household.Reply

open Household.Text

variable {pairs : List (String × String)} {e : WordEntry} {key text found rest : List Char}
  {before : Option Char}

/-! ## What a list of pairs says of a word -/

/-- The last pair for a word, in whatever form it gives it, has its replacement. -/
def replacement? (pairs : List (String × String)) (word : List Char) : Option String :=
  (pairs.reverse.find? fun pair =>
    !isBlank pair.1.toList && normalWord (trim pair.1.toList) == word).map (·.2)

def Lists (pairs : List (String × String)) (e : WordEntry) : Prop :=
  replacement? pairs e.word = some e.replacement

/-- The table under names from which the entries are taken. -/
def keyedPairs (pairs : List (String × String)) : Keyed String :=
  Keyed.ofList <| (pairs.filter fun pair => !isBlank pair.1.toList).map fun pair =>
    (String.ofList (normalWord (trim pair.1.toList)), pair.2)

theorem get?_keyedPairs (pairs : List (String × String)) (word : List Char) :
    (keyedPairs pairs).get? (String.ofList word) = replacement? pairs word := by
  induction pairs using List.reverseRecOn with
  | nil => rfl
  | append_singleton earlier pair ih =>
    rw [replacement?, List.reverse_append, List.reverse_singleton, List.singleton_append,
      List.find?_cons, keyedPairs, List.filter_append, List.map_append]
    by_cases hBlank : isBlank pair.1.toList = true
    · have hKept : [pair].filter (fun pair => !isBlank pair.1.toList) = [] := by simp [hBlank]
      rw [hKept, hBlank, List.map_nil, List.append_nil]
      exact ih
    · have hKept : [pair].filter (fun pair => !isBlank pair.1.toList) = [pair] := by simp [hBlank]
      rw [hKept, Bool.eq_false_iff.mpr hBlank, List.map_singleton, Keyed.get?_ofList_append_singleton]
      by_cases hWord : normalWord (trim pair.1.toList) = word
      · simp [hWord]
      · have hOther : (normalWord (trim pair.1.toList) == word) = false := by simpa using hWord
        rw [if_neg fun hName => hWord (String.ofList_inj.mp hName), hOther]
        exact ih

theorem mem_ofPairs_iff : e ∈ WordTable.ofPairs pairs ↔ Lists pairs e := by
  have hGet : Lists pairs e ↔ (String.ofList e.word, e.replacement) ∈ keyedPairs pairs := by
    rw [Lists, ← get?_keyedPairs]
    exact ⟨Keyed.mem_of_get?, Keyed.get?_of_mem (Keyed.ordered_ofList _).nodup_keys⟩
  rw [hGet, WordTable.ofPairs, List.mem_mergeSort, List.mem_map]
  constructor
  · rintro ⟨⟨name, replacement⟩, hMem, rfl⟩
    rwa [String.ofList_toList]
  · intro hMem
    exact ⟨_, hMem, by rw [String.toList_ofList]⟩

theorem Lists.eq_of_word {e' : WordEntry} (h : Lists pairs e) (h' : Lists pairs e')
    (hWord : e.word = e'.word) : e = e' := by
  obtain ⟨word, replacement⟩ := e
  obtain ⟨word', replacement'⟩ := e'
  obtain rfl : word = word' := hWord
  have hSame : some replacement = some replacement' := h.symm.trans h'
  rw [Option.some.inj hSame]

theorem Lists.isNormal (h : Lists pairs e) : ∀ k ∈ e.word, IsNormal k := by
  obtain ⟨pair, -, -, rfl⟩ := mem_ofPairs (mem_ofPairs_iff.mpr h)
  exact fun _ hk => isNormal_of_mem_normalWord hk

theorem Lists.straight (h : Lists pairs e) : ∀ k ∈ e.word, k ≠ '’' :=
  fun k hk => (h.isNormal k hk).straight

theorem Lists.word_ne_nil (h : Lists pairs e) : e.word ≠ [] := by
  obtain ⟨pair, -, hBlank, rfl⟩ := mem_ofPairs (mem_ofPairs_iff.mpr h)
  exact mt List.map_eq_nil_iff.mp (lowercase_ne_nil (trim_ne_nil hBlank))

/-! ## Places where a word stands -/

/-- In any ASCII case, and with apostrophes of either form. -/
def UpToApostrophes (k c : Char) : Prop := asciiLower k = asciiLower (straighten c)

/-- A word stands somewhere in a text. -/
def StandsIn (word text : List Char) : Prop :=
  ∃ front back found rest, text = front ++ back ∧
    StandsAt UpToApostrophes word front.getLast? back found rest

theorem sameInTable_iff {k c : Char} (hk : k ≠ '’') :
    sameInTable k c = true ↔ UpToApostrophes k c := by
  have hStraight : ∀ d, asciiLower d = '\'' ↔ d = '\'' := fun _ => asciiLower_eq_iff (by decide)
  have hCurly : asciiLower '’' = '’' := by decide
  rw [sameInTable, UpToApostrophes]
  split
  · rename_i hApostrophe
    rw [decide_eq_true_iff, hApostrophe, (hStraight '\'').mpr rfl, eq_comm (a := '\''), hStraight]
  · rename_i hOther
    rw [sameLetter, decide_eq_true_iff, straighten]
    split
    · -- A curly apostrophe stands for a straight one only, and `k` is neither.
      rename_i hc
      rw [hc, hCurly, asciiLower_eq_iff (by decide), (hStraight '\'').mpr rfl, hStraight]
      exact ⟨fun h => absurd h hk, fun h => absurd h hOther⟩
    · exact Iff.rfl

theorem matchPhrase_sameInTable_iff (hKey : ∀ k ∈ key, k ≠ '’') :
    matchPhrase sameInTable key before text = some (found, rest) ↔
      StandsAt UpToApostrophes key before text found rest := by
  rw [matchPhrase_eq_some_iff]
  exact standsAt_congr fun k hk _ => sameInTable_iff (hKey k hk)

theorem StandsAt.normalWord_eq (h : StandsAt UpToApostrophes e.word before text found rest)
    (hListed : Lists pairs e) : normalWord found = e.word :=
  normalWord_of_forall₂ hListed.isNormal
    (matchPhrase_eq_some_iff.mp ((matchPhrase_sameInTable_iff hListed.straight).mpr h)).same

/-! ## The longest word at a place -/

/-- Of the listed words that stand at a place, no other is longer. -/
structure IsLongestAt (pairs : List (String × String)) (before : Option Char) (text : List Char)
    (e : WordEntry) (found rest : List Char) : Prop where
  listed : Lists pairs e
  stands : StandsAt UpToApostrophes e.word before text found rest
  longest : ∀ e' found' rest', Lists pairs e' →
    StandsAt UpToApostrophes e'.word before text found' rest' → e'.word.length ≤ e.word.length

/-- The form of each character by itself. -/
def letterForms (text : List Char) : List Char := text.flatMap fun c => (lowerForm c).map straighten

theorem letterForms_eq_of_forall₂ (hKey : ∀ k ∈ key, IsNormal k)
    (h : List.Forall₂ (fun k c => sameInTable k c = true) key found) : letterForms found = key := by
  induction h with
  | nil => rfl
  | cons hSame hLater ih =>
    rw [letterForms, List.flatMap_cons, map_straighten_lowerForm (hKey _ List.mem_cons_self) hSame]
    exact congrArg _ (ih fun d hd => hKey d (List.mem_cons_of_mem _ hd))

theorem StandsAt.letterForms_eq (h : StandsAt UpToApostrophes e.word before text found rest)
    (hListed : Lists pairs e) : letterForms text = e.word ++ letterForms rest := by
  have hMatch := (matchPhrase_sameInTable_iff hListed.straight).mpr h
  have hWord := letterForms_eq_of_forall₂ hListed.isNormal (matchPhrase_eq_some_iff.mp hMatch).same
  rw [h.spells, letterForms, List.flatMap_append, ← hWord]
  rfl

theorem StandsAt.found_ne_nil (h : StandsAt UpToApostrophes e.word before text found rest)
    (hListed : Lists pairs e) : found ≠ [] := by
  intro hNil
  have hLength := h.length_eq
  rw [hNil, List.length_nil, List.length_eq_zero_iff] at hLength
  exact hListed.word_ne_nil hLength

theorem IsLongestAt.unique {e' : WordEntry} {found' rest' : List Char}
    (h : IsLongestAt pairs before text e found rest)
    (h' : IsLongestAt pairs before text e' found' rest') :
    e = e' ∧ found = found' ∧ rest = rest' := by
  have hLength : e.word.length = e'.word.length :=
    (h'.longest _ _ _ h.listed h.stands).antisymm (h.longest _ _ _ h'.listed h'.stands)
  have hForms := (h.stands.letterForms_eq h.listed).symm.trans (h'.stands.letterForms_eq h'.listed)
  have hWord : e.word = e'.word := (List.append_inj hForms hLength).1
  have hSpells := h.stands.spells.symm.trans h'.stands.spells
  have hFound : found.length = found'.length := by
    rw [← h.stands.length_eq, ← h'.stands.length_eq, hLength]
  exact ⟨h.listed.eq_of_word h'.listed hWord, List.append_inj hSpells hFound⟩

theorem find_eq_none_iff :
    (WordTable.ofPairs pairs).find before text = none ↔
      ∀ e found rest, Lists pairs e → ¬StandsAt UpToApostrophes e.word before text found rest := by
  rw [WordTable.find, List.findSome?_eq_none_iff]
  constructor
  · intro h e found rest hListed hStands
    have hNone := h e (mem_ofPairs_iff.mpr hListed)
    rw [(matchPhrase_sameInTable_iff hListed.straight).mpr hStands] at hNone
    cases hNone
  · intro h e hMem
    rw [Option.map_eq_none_iff]
    by_contra hSome
    obtain ⟨⟨found, rest⟩, hMatch⟩ := Option.ne_none_iff_exists'.mp hSome
    have hListed := mem_ofPairs_iff.mp hMem
    exact h e found rest hListed ((matchPhrase_sameInTable_iff hListed.straight).mp hMatch)

theorem pairwise_longerFirst (pairs : List (String × String)) :
    (WordTable.ofPairs pairs).Pairwise fun a b => WordTable.longerFirst a b = true := by
  apply List.pairwise_mergeSort
  · intro a b c hab hbc
    rw [WordTable.longerFirst, decide_eq_true_iff] at hab hbc ⊢
    exact hbc.trans hab
  · intro a b
    rw [Bool.or_eq_true, WordTable.longerFirst, WordTable.longerFirst, decide_eq_true_iff,
      decide_eq_true_iff]
    exact Nat.le_total _ _

-- Words that stand at one place begin alike, so that the one with more bytes has more characters.
theorem StandsAt.length_le_of_byteSize_le {e' : WordEntry} {found' rest' : List Char}
    (h : StandsAt UpToApostrophes e.word before text found rest) (hListed : Lists pairs e)
    (h' : StandsAt UpToApostrophes e'.word before text found' rest') (hListed' : Lists pairs e')
    (hBytes : byteSize e'.word ≤ byteSize e.word) : e'.word.length ≤ e.word.length := by
  have hForms := (h'.letterForms_eq hListed').symm.trans (h.letterForms_eq hListed)
  exact (prefix_of_byteSize_le hForms hBytes).length_le

theorem isLongestAt_of_find {hit : Hit WordEntry}
    (h : (WordTable.ofPairs pairs).find before text = some hit) :
    IsLongestAt pairs before text hit.label hit.found hit.rest := by
  obtain ⟨hMem, hMatch⟩ := WordTable.exists_of_find h
  have hListed := mem_ofPairs_iff.mp hMem
  have hStands := (matchPhrase_sameInTable_iff hListed.straight).mp hMatch
  refine ⟨hListed, hStands, fun e' found' rest' hListed' hStands' => ?_⟩
  obtain ⟨earlier, first, later, hTable, hFirst, hEarlier⟩ := List.findSome?_eq_some_iff.mp h
  obtain ⟨⟨_, _⟩, -, hHit⟩ := Option.map_eq_some_iff.mp hFirst
  obtain rfl : first = hit.label := congrArg Hit.label hHit
  have hOther : e' ∈ earlier ++ hit.label :: later := hTable ▸ mem_ofPairs_iff.mpr hListed'
  rcases List.mem_append.mp hOther with hBefore | hAfter
  · have hNone := hEarlier e' hBefore
    rw [(matchPhrase_sameInTable_iff hListed'.straight).mpr hStands'] at hNone
    cases hNone
  · rcases List.mem_cons.mp hAfter with rfl | hLater
    · exact Nat.le_refl _
    · have hSorted := hTable ▸ pairwise_longerFirst pairs
      have hBytes : byteSize e'.word ≤ byteSize hit.label.word := of_decide_eq_true
        ((List.pairwise_cons.mp (List.pairwise_append.mp hSorted).2.1).1 e' hLater)
      exact hStands.length_le_of_byteSize_le hListed hStands' hListed' hBytes

theorem find_eq_some_iff :
    (WordTable.ofPairs pairs).find before text = some ⟨e, found, rest⟩ ↔
      IsLongestAt pairs before text e found rest := by
  constructor
  · exact isLongestAt_of_find
  · intro h
    cases hFind : (WordTable.ofPairs pairs).find before text with
    | none => exact absurd h.stands (find_eq_none_iff.mp hFind _ _ _ h.listed)
    | some hit =>
      obtain ⟨label, found', rest'⟩ := hit
      obtain ⟨rfl, rfl, rfl⟩ := h.unique (isLongestAt_of_find hFind)
      rfl

/-! ## Capitals -/

/-- More than one letter, and capital letters only. -/
def Shouts (found : List Char) : Prop :=
  1 < (found.filter isLetter).length ∧ ∀ c ∈ found, isLetter c = true → isCapital c = true

/-- What is put in the place of a word has the capitals of the word: all of them, the first one or
none. -/
inductive TakesCapitals (found replacement : List Char) : List Char → Prop
  | all (hShouts : Shouts found) : TakesCapitals found replacement (replacement.flatMap upperForm)
  | first {c : Char} {later : List Char} (hQuiet : ¬Shouts found) (hFound : found = c :: later)
      (hCapital : isCapital c = true) :
      TakesCapitals found replacement
        ((replacement.take 1).flatMap upperForm ++ replacement.drop 1)
  | none (hQuiet : ¬Shouts found)
      (hFound : ∀ c later, found = c :: later → isCapital c = false) :
      TakesCapitals found replacement replacement

theorem isShouted_iff : isShouted found = true ↔ Shouts found := by
  simp only [isShouted, Shouts, Bool.and_eq_true, decide_eq_true_iff, List.all_eq_true,
    List.mem_filter, and_imp]

theorem capitalize_eq (t : List Char) :
    capitalize t = (t.take 1).flatMap upperForm ++ t.drop 1 := by
  cases t with
  | nil => rfl
  | cons c rest => simp [capitalize]

theorem takesCapitals_matchCase (found replacement : List Char) :
    TakesCapitals found replacement (matchCase found replacement) := by
  rw [matchCase]
  by_cases hShouts : Shouts found
  · rw [if_pos (isShouted_iff.mpr hShouts)]
    exact .all hShouts
  · rw [if_neg (mt isShouted_iff.mp hShouts)]
    cases found with
    | nil => exact .none hShouts fun _ _ hNil => nomatch hNil
    | cons c later =>
      rw [List.head?_cons, Option.any_some]
      cases hCapital : isCapital c with
      | true =>
        rw [if_pos rfl, capitalize_eq]
        exact .first hShouts rfl hCapital
      | false => exact .none hShouts fun _ _ hCons => (List.cons.inj hCons).1 ▸ hCapital

theorem takesCapitals_iff {replacement put : List Char} :
    TakesCapitals found replacement put ↔ put = matchCase found replacement := by
  constructor
  · intro h
    rw [matchCase]
    cases h with
    | all hShouts =>
      rw [if_pos (isShouted_iff.mpr hShouts)]
      rfl
    | first hQuiet hFound hCapital =>
      rw [if_neg (mt isShouted_iff.mp hQuiet), hFound, List.head?_cons, Option.any_some,
        if_pos hCapital, capitalize_eq]
    | none hQuiet hFound =>
      rw [if_neg (mt isShouted_iff.mp hQuiet)]
      cases found with
      | nil => rfl
      | cons c later =>
        rw [List.head?_cons, Option.any_some, hFound c later rfl]
        rfl
  · rintro rfl
    exact takesCapitals_matchCase found replacement

/-! ## From left to right -/

/-- What becomes of a text after the character `before`, and the entries that are used on the way. -/
inductive Replaces (pairs : List (String × String)) :
    Option Char → List Char → List Char → List WordEntry → Prop
  | nil {before : Option Char} : Replaces pairs before [] [] []
  | keep {before : Option Char} {c : Char} {text out : List Char} {used : List WordEntry}
      (hNone : ∀ e found rest, Lists pairs e →
        ¬StandsAt UpToApostrophes e.word before (c :: text) found rest)
      (hLater : Replaces pairs (some c) text out used) :
      Replaces pairs before (c :: text) (c :: out) used
  | replace {before : Option Char} {text found rest put out : List Char} {e : WordEntry}
      {used : List WordEntry} (hLongest : IsLongestAt pairs before text e found rest)
      (hPut : TakesCapitals found e.replacement.toList put)
      (hLater : Replaces pairs (found.getLast?.or before) rest out used) :
      Replaces pairs before text (put ++ out) (e :: used)

theorem IsLongestAt.length_rest_lt (h : IsLongestAt pairs before text e found rest) :
    rest.length < text.length := by
  have hPos := List.length_pos_iff.mpr (h.stands.found_ne_nil h.listed)
  rw [h.stands.spells, List.length_append]
  omega

/-- The text that the parts become, and the entries that are used. -/
def outcome (ps : List (Part WordEntry)) : List Char × List WordEntry :=
  (rebuild (fun e t => matchCase t e.replacement.toList) ps, (hits ps).map (·.1))

theorem replaces_scan {fuel : Nat} (hFuel : text.length ≤ fuel) :
    Replaces pairs before text (outcome (scan (WordTable.ofPairs pairs).find fuel before text)).1
      (outcome (scan (WordTable.ofPairs pairs).find fuel before text)).2 := by
  induction fuel generalizing before text with
  | zero =>
    obtain rfl := List.eq_nil_of_length_eq_zero (Nat.le_zero.mp hFuel)
    exact .nil
  | succ fuel ih =>
    cases text with
    | nil => exact .nil
    | cons c text =>
      rw [scan]
      split
      · rename_i hit hFind
        have hLongest := isLongestAt_of_find hFind
        exact .replace hLongest (takesCapitals_matchCase _ _)
          (ih (Nat.le_of_lt_succ (hLongest.length_rest_lt.trans_le hFuel)))
      · rename_i hNone
        exact .keep (find_eq_none_iff.mp hNone) (ih (Nat.le_of_succ_le_succ hFuel))

theorem Replaces.eq_outcome {out : List Char} {used : List WordEntry} {fuel : Nat}
    (h : Replaces pairs before text out used) (hFuel : text.length ≤ fuel) :
    (out, used) = outcome (scan (WordTable.ofPairs pairs).find fuel before text) := by
  induction h generalizing fuel with
  | nil =>
    rw [scan_nil]
    rfl
  | @keep before c text out used hNone hLater ih =>
    obtain ⟨fuel, rfl⟩ := Nat.exists_eq_add_one_of_ne_zero (Nat.ne_zero_of_lt hFuel)
    rw [scan, find_eq_none_iff.mpr hNone]
    have hRest := ih (Nat.le_of_succ_le_succ hFuel)
    exact Prod.ext (congrArg (c :: ·.1) hRest) (congrArg (·.2) hRest)
  | @replace before text found rest put out e used hLongest hPut hLater ih =>
    have hShorter := hLongest.length_rest_lt.trans_le hFuel
    obtain ⟨fuel, rfl⟩ := Nat.exists_eq_add_one_of_ne_zero (Nat.ne_zero_of_lt hShorter)
    obtain ⟨c, later, rfl⟩ : ∃ c later, text = c :: later := by
      cases text with
      | nil => exact absurd hLongest.length_rest_lt (Nat.not_lt_zero _)
      | cons c later => exact ⟨c, later, rfl⟩
    rw [scan, find_eq_some_iff.mpr hLongest, takesCapitals_iff.mp hPut]
    have hRest := ih (Nat.le_of_lt_succ hShorter)
    exact Prod.ext (congrArg (matchCase found e.replacement.toList ++ ·.1) hRest)
      (congrArg (e :: ·.2) hRest)

theorem replaces_iff {out : List Char} {used : List WordEntry} :
    Replaces pairs none text out used ↔
      (out, used) = outcome (parts (WordTable.ofPairs pairs).find text) := by
  constructor
  · exact fun h => h.eq_outcome (Nat.le_refl _)
  · intro h
    have hScan := @replaces_scan pairs text none text.length (Nat.le_refl _)
    rw [← parts, ← h] at hScan
    exact hScan

theorem hits_parts_eq_nil_iff_standsIn :
    hits (parts (WordTable.ofPairs pairs).find text) = [] ↔
      ∀ e, Lists pairs e → ¬StandsIn e.word text := by
  rw [hits_parts_eq_nil_iff]
  constructor
  · rintro h e hListed ⟨front, back, found, rest, hText, hStands⟩
    have hBack : back ≠ [] := by
      rintro rfl
      exact hStands.found_ne_nil hListed (List.append_eq_nil_iff.mp hStands.spells.symm).1
    exact find_eq_none_iff.mp (h front back hText hBack) e found rest hListed hStands
  · intro h front back hText _
    rw [find_eq_none_iff]
    intro e found rest hListed hStands
    exact h e hListed ⟨front, back, found, rest, hText, hStands⟩

/-! ## The changes made -/

theorem eraseDups_append_singleton (earlier : List WordEntry) (e : WordEntry) :
    (earlier ++ [e]).eraseDups =
      if e ∈ earlier then earlier.eraseDups else earlier.eraseDups ++ [e] := by
  have hOne : [e].eraseDups = [e] := by simp [List.eraseDups_cons]
  rw [List.eraseDups_append, List.removeAll, List.filter_singleton]
  split
  · rename_i hSeen
    simp [hSeen]
  · rename_i hNew
    simp [hNew, hOne]

theorem nodup_eraseDups (entries : List WordEntry) : entries.eraseDups.Nodup := by
  induction entries using List.reverseRecOn with
  | nil => exact List.nodup_nil
  | append_singleton earlier e ih =>
    rw [eraseDups_append_singleton]
    split
    · exact ih
    · rename_i hNew
      exact List.nodup_append.mpr ⟨ih, List.nodup_singleton e, fun a ha b hb hab =>
        hNew (List.mem_eraseDups.mp (List.mem_singleton.mp hb ▸ hab ▸ ha))⟩

theorem changes_eq_eraseDups (entries : List WordEntry) :
    changes entries = entries.eraseDups.map .ofEntry := by
  suffices hFold : entries.foldl (fun seen e => if e ∈ seen then seen else e :: seen) [] =
      entries.eraseDups.reverse by
    rw [changes, hFold, List.reverse_reverse]
  induction entries using List.reverseRecOn with
  | nil => rfl
  | append_singleton earlier e ih =>
    rw [List.foldl_append, List.foldl_cons, List.foldl_nil, ih, eraseDups_append_singleton]
    simp only [List.mem_reverse, List.mem_eraseDups]
    split
    · rfl
    · rw [List.reverse_append, List.reverse_singleton, List.singleton_append]

theorem lists_of_mem_hits (h : (e, found) ∈ hits (parts (WordTable.ofPairs pairs).find text)) :
    Lists pairs e := by
  obtain ⟨_, _, _, hFind⟩ := exists_of_mem_hits_scan h
  exact (isLongestAt_of_find hFind).listed

theorem nodup_used_words (pairs : List (String × String)) (text : List Char) :
    ((outcome (parts (WordTable.ofPairs pairs).find text)).2.eraseDups.map WordEntry.word).Nodup := by
  refine (nodup_eraseDups _).map_on fun a ha b hb hWord => ?_
  obtain ⟨⟨_, _⟩, hHit, rfl⟩ := List.mem_map.mp (List.mem_eraseDups.mp ha)
  obtain ⟨⟨_, _⟩, hHit', rfl⟩ := List.mem_map.mp (List.mem_eraseDups.mp hb)
  exact (lists_of_mem_hits hHit).eq_of_word (lists_of_mem_hits hHit') hWord

theorem substitute?_eq_outcome (pairs : List (String × String)) (text : List Char) :
    (WordTable.ofPairs pairs).substitute? text =
      if (outcome (parts (WordTable.ofPairs pairs).find text)).2 = [] then none
      else some ((outcome (parts (WordTable.ofPairs pairs).find text)).1,
        (outcome (parts (WordTable.ofPairs pairs).find text)).2.eraseDups.map fun e =>
          ⟨String.ofList e.word, e.replacement⟩) := by
  split
  · rename_i hNil
    exact WordTable.substitute?_eq_none_iff.mpr (List.map_eq_nil_iff.mp hNil)
  · rename_i hUsed
    exact WordTable.substitute?_eq_some_iff.mpr
      ⟨fun hNil => hUsed (List.map_eq_nil_iff.mpr hNil), rfl, (changes_eq_eraseDups _).symm⟩

/-- Every text has one result of replacing the longest word at each leftmost place, which is what
the table makes of it, with each used entry noted once in the order of first use. It makes nothing
of a text in which no listed word stands. Wherever one stands, the form of what stands there leads
to its entry. -/
theorem substitute?_leftmost_longest (pairs : List (String × String)) (text : List Char) :
    (∃ out used, (∀ out' used', Replaces pairs none text out' used' ↔ out' = out ∧ used' = used) ∧
      (used.eraseDups.map WordEntry.word).Nodup ∧
      (WordTable.ofPairs pairs).substitute? text =
        if used = [] then none
        else some (out, used.eraseDups.map fun e => ⟨String.ofList e.word, e.replacement⟩)) ∧
    ((WordTable.ofPairs pairs).substitute? text = none ↔
      ∀ e, Lists pairs e → ¬StandsIn e.word text) ∧
    ∀ e before later found rest, Lists pairs e →
      StandsAt UpToApostrophes e.word before later found rest →
      (WordTable.ofPairs pairs).lookUp? found = some e := by
  refine ⟨⟨_, _, fun out' used' => ?_, nodup_used_words pairs text, substitute?_eq_outcome _ _⟩,
    ?_, fun e before later found rest hListed hStands => ?_⟩
  · rw [replaces_iff, Prod.ext_iff]
  · rw [WordTable.substitute?_eq_none_iff, hits_parts_eq_nil_iff_standsIn]
  · exact lookUp?_eq_some (mem_ofPairs_iff.mpr hListed) (hStands.normalWord_eq hListed)

end Household.Reply
