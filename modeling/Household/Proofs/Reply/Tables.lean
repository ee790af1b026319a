import Mathlib.Data.List.Nodup
import Household.Proofs.Data.KeyOrder
import Household.Proofs.Reply.Parts
import Household.Proofs.Text.LowerCase

/-! # What a table of words finds

A table keeps one entry for each normal form of a word. Whatever it finds in a text has the normal
form of the entry that found it, so that a look-up under that form leads back to the entry.
-/

set_option autoImplicit false

namespace Household.Reply

open Household.Text

variable {pairs : List (String × String)} {e : WordEntry} {key found : List Char}

/-! ## The entries of a table -/

theorem mem_ofPairs (h : e ∈ WordTable.ofPairs pairs) :
    ∃ pair ∈ pairs, isBlank pair.1.toList = false ∧
      e = ⟨normalWord (trim pair.1.toList), pair.2⟩ := by
  rw [WordTable.ofPairs, List.mem_mergeSort] at h
  obtain ⟨entry, hEntry, rfl⟩ := List.mem_map.mp h
  obtain ⟨pair, hPair, rfl⟩ := List.mem_map.mp (Keyed.mem_of_mem_ofList hEntry)
  obtain ⟨hMem, hUsable⟩ := List.mem_filter.mp hPair
  exact ⟨pair, hMem, by simpa using hUsable, by rw [String.toList_ofList]⟩

theorem nodup_words_ofPairs (pairs : List (String × String)) :
    ((WordTable.ofPairs pairs).map WordEntry.word).Nodup := by
  have hPerm := (List.mergeSort_perm
    ((Keyed.ofList ((pairs.filter fun pair => !isBlank pair.1.toList).map fun pair =>
      (String.ofList (normalWord (trim pair.1.toList)), pair.2))).map fun entry =>
        (⟨entry.1.toList, entry.2⟩ : WordEntry)) WordTable.longerFirst).map WordEntry.word
  rw [WordTable.ofPairs, hPerm.nodup_iff, List.map_map, List.Nodup, List.pairwise_map]
  refine (Keyed.ordered_ofList _).imp fun {a b} hLess hSame => ?_
  have hKeys : a.1 = b.1 := String.toList_inj.mp hSame
  rw [hKeys] at hLess
  exact String.lt_irrefl _ hLess

theorem lookUp?_eq_some (h : e ∈ WordTable.ofPairs pairs) (hWord : normalWord found = e.word) :
    (WordTable.ofPairs pairs).lookUp? found = some e := by
  cases hFind : (WordTable.ofPairs pairs).lookUp? found with
  | none =>
    have hNone := List.find?_eq_none.mp hFind e h
    simp [hWord] at hNone
  | some other =>
    have hOther : other.word = normalWord found :=
      eq_of_beq (List.find?_some (a := other) hFind)
    have hSame := List.inj_on_of_nodup_map (nodup_words_ofPairs pairs)
      (List.mem_of_find?_eq_some hFind) h (hOther.trans hWord)
    rw [hSame]

/-! ## The form of what is found -/

theorem asciiLower_of_not_ascii {c : Char} (h : ¬c.toNat < 128) : asciiLower c = c := by
  apply Char.toNat_inj.mp
  rw [toNat_asciiLower, if_neg (by omega)]

/-- A lower-case character and one that stands for it have the same form. -/
theorem lowerForm_of_sameLetter {k c : Char} (hk : IsLower k) (h : sameLetter k c = true) :
    lowerForm c = [k] := by
  have hSame : asciiLower k = asciiLower c := by simpa [sameLetter] using h
  have hLowerK := toNat_asciiLower k
  have hLowerC := toNat_asciiLower c
  rw [hSame, hLowerC] at hLowerK
  by_cases hc : c.toNat < 128
  · have hkAscii : k.toNat < 128 := by
      split at hLowerK <;> split at hLowerK <;> omega
    rw [lowerForm, if_pos hc, ← hSame]
    rw [IsLower, lowerForm, if_pos hkAscii] at hk
    exact hk
  · have hkBeyond : ¬k.toNat < 128 := by
      split at hLowerK <;> split at hLowerK <;> omega
    rw [asciiLower_of_not_ascii hc, asciiLower_of_not_ascii hkBeyond] at hSame
    rw [← hSame]
    exact hk

structure IsNormal (c : Char) : Prop where
  lower : IsLower c
  straight : c ≠ '’'

theorem isNormal_of_mem_normalWord {c : Char} {word : List Char} (h : c ∈ normalWord word) :
    IsNormal c := by
  obtain ⟨d, hd, rfl⟩ := List.mem_map.mp h
  rw [straighten]
  split
  · exact ⟨by decide, by decide⟩
  · rename_i hNe
    exact ⟨isLower_of_mem_lowercase hd, hNe⟩

theorem straighten_of_ne {c : Char} (h : c ≠ '’') : straighten c = c := if_neg h

theorem isApostrophe_of_straighten {c : Char} (h : straighten c = '\'') : c = '’' ∨ c = '\'' := by
  rw [straighten] at h
  split at h
  · rename_i hCurly
    exact .inl hCurly
  · exact .inr h

/-- The form of one character that stands for `k` in a key. -/
theorem map_straighten_lowerForm {k c : Char} (hk : IsNormal k) (h : sameInTable k c = true) :
    (lowerForm c).map straighten = [k] := by
  rw [sameInTable] at h
  split at h
  · rename_i hApostrophe
    rcases isApostrophe_of_straighten (of_decide_eq_true h) with rfl | rfl
    · rw [hApostrophe]
      decide +kernel
    · rw [hApostrophe]
      decide
  · rw [lowerForm_of_sameLetter hk.lower h, List.map_singleton, straighten_of_ne hk.straight]

theorem ne_sigma_of_sameInTable {k c : Char} (hk : IsNormal k) (h : sameInTable k c = true) :
    c ≠ 'Σ' := by
  rintro rfl
  have hForm := map_straighten_lowerForm hk h
  have hSigma : (lowerForm 'Σ').map straighten = ['σ'] := by decide +kernel
  rw [hSigma] at hForm
  obtain rfl : 'σ' = k := by simpa using hForm
  revert h
  decide

theorem normalWord_of_forall₂
    (hKey : ∀ k ∈ key, IsNormal k) (h : List.Forall₂ (fun k c => sameInTable k c = true) key found) :
    normalWord found = key := by
  suffices hAfter : ∀ before, (lowercaseAfter before found).map straighten = key from hAfter []
  induction h with
  | nil => exact fun _ => rfl
  | @cons k c key found hSame hLater ih =>
    intro before
    have hk := hKey k List.mem_cons_self
    -- No sigma is capital here, so its place in the word does not matter.
    rw [lowercaseAfter, if_neg (ne_sigma_of_sameInTable hk hSame), List.map_append,
      map_straighten_lowerForm hk hSame, ih fun d hd => hKey d (List.mem_cons_of_mem _ hd)]
    rfl

theorem normalWord_of_find {before : Option Char} {text : List Char} {hit : Hit WordEntry}
    (h : (WordTable.ofPairs pairs).find before text = some hit) :
    normalWord hit.found = hit.label.word := by
  obtain ⟨hMem, hMatch⟩ := WordTable.exists_of_find h
  obtain ⟨pair, -, -, hEntry⟩ := mem_ofPairs hMem
  refine normalWord_of_forall₂ (fun k hk => ?_) (matchPhrase_eq_some_iff.mp hMatch).same
  rw [hEntry] at hk
  exact isNormal_of_mem_normalWord hk

/-- Whatever a table finds leads, in its normal form, back to the entry that found it. -/
theorem lookUp?_of_mem_hits {text : List Char}
    (h : (e, found) ∈ hits (parts (WordTable.ofPairs pairs).find text)) :
    (WordTable.ofPairs pairs).lookUp? found = some e := by
  obtain ⟨before, later, rest, hFind⟩ := exists_of_mem_hits_scan h
  exact lookUp?_eq_some (WordTable.exists_of_find hFind).1 (normalWord_of_find hFind)

/-! ## What is put in -/

theorem rebuild_congr {α : Type} {f g : α → List Char → List Char} {ps : List (Part α)}
    (h : ∀ a found, (a, found) ∈ hits ps → f a found = g a found) : rebuild f ps = rebuild g ps := by
  refine List.flatMap_congr fun part hPart => ?_
  cases part with
  | plain c => rfl
  | found a text => exact h a text (List.mem_filterMap.mpr ⟨_, hPart, rfl⟩)

theorem rebuild_replace (pairs : List (String × String)) (text : List Char) :
    rebuild (fun _ found => (WordTable.ofPairs pairs).replace found)
        (parts (WordTable.ofPairs pairs).find text) =
      rebuild (fun e found => matchCase found e.replacement.toList)
        (parts (WordTable.ofPairs pairs).find text) := by
  refine rebuild_congr fun e found hHit => ?_
  rw [WordTable.replace, lookUp?_of_mem_hits hHit]

theorem filterMap_lookUp?_hits (pairs : List (String × String)) (text : List Char) :
    (hits (parts (WordTable.ofPairs pairs).find text)).filterMap
        (fun hit => (WordTable.ofPairs pairs).lookUp? hit.2) =
      (hits (parts (WordTable.ofPairs pairs).find text)).map (·.1) := by
  rw [← List.filterMap_eq_map]
  exact List.filterMap_congr fun _ hHit => lookUp?_of_mem_hits hHit

end Household.Reply
