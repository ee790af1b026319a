import Household.Layer.Window
import Household.Proofs.Data.Outcome
import Household.Proofs.Text.Trimming

/-! # The words for days

A list of days is written with the names of the days, their first three letters, and words for
several days at once. A list is read if it is not empty and all its words are known, and it stands
for the days that its words stand for.
-/

set_option autoImplicit false

namespace Household

open Household.Text

theorem Weekday.normalName_normalName (s : String) : normalName (normalName s) = normalName s := by
  have hTrim : trim ((trim s.toList).map asciiLower) = (trim s.toList).map asciiLower := by
    rw [trim_map isSpace_asciiLower, trim_trim]
  have hLower : asciiLower ∘ asciiLower = asciiLower := funext asciiLower_asciiLower
  rw [normalName, normalName, String.toList_ofList, hTrim, List.map_map, hLower]

namespace DaySet

def workdays : List Weekday := [.monday, .tuesday, .wednesday, .thursday, .friday]

def restDays : List Weekday := [.saturday, .sunday]

/-- The words and the days that each of them stands for. -/
def dayWords : List (String × List Weekday) :=
  [("all", Weekday.all), ("daily", Weekday.all), ("everyday", Weekday.all),
    ("weekdays", workdays), ("weekends", restDays), ("weekend", restDays)] ++
    Weekday.all.flatMap fun d => [(d.name, [d]), (d.abbreviation, [d])]

/-- White space around a word does not count, nor does the case of its letters. -/
def IsKnown (word : String) : Prop := ∃ days, (Weekday.normalName word, days) ∈ dayWords

def StandsFor (word : String) (d : Weekday) : Prop :=
  ∃ days, (Weekday.normalName word, days) ∈ dayWords ∧ d ∈ days

theorem named_of_normalName {word given : String} (h : Weekday.normalName word = given)
    (hNormal : Weekday.normalName given = given) : named word = named given := by
  rw [named, named, h, hNormal]

theorem named_of_mem_dayWords {given : String} {days : List Weekday}
    (h : (given, days) ∈ dayWords) :
    Weekday.normalName given = given ∧ named given = .ok days := by
  have hAll : ∀ entry ∈ dayWords,
      Weekday.normalName entry.1 = entry.1 ∧ (named entry.1).toOption = some entry.2 := by
    decide +kernel
  obtain ⟨hNormal, hNamed⟩ := hAll _ h
  refine ⟨hNormal, ?_⟩
  cases hCase : named given with
  | ok found =>
    rw [hCase] at hNamed
    exact congrArg Except.ok (Option.some.inj hNamed)
  | error fault =>
    rw [hCase] at hNamed
    cases hNamed

theorem mem_dayWords_of_mem_all (d : Weekday) :
    (d.name, [d]) ∈ dayWords ∧ (d.abbreviation, [d]) ∈ dayWords := by
  have hBoth (word : String) (h : word = d.name ∨ word = d.abbreviation) :
      (word, [d]) ∈ dayWords := by
    refine List.mem_append_right _ (List.mem_flatMap.mpr ⟨d, d.mem_all, ?_⟩)
    simpa using h
  exact ⟨hBoth _ (.inl rfl), hBoth _ (.inr rfl)⟩

theorem mem_dayWords_of_ofName {given : String} {d : Weekday}
    (hGiven : Weekday.normalName given = given) (h : Weekday.ofName given = .ok d) :
    (given, [d]) ∈ dayWords := by
  rw [Weekday.ofName, hGiven] at h
  split at h
  · rename_i found hFound
    cases h
    have hName := List.find?_some hFound
    simp only [Bool.or_eq_true, beq_iff_eq] at hName
    obtain rfl | rfl := hName
    · exact (mem_dayWords_of_mem_all d).1
    · exact (mem_dayWords_of_mem_all d).2
  · cases h

theorem filter_not_isWeekend : Weekday.all.filter (!·.isWeekend) = workdays := rfl

theorem filter_isWeekend : Weekday.all.filter (·.isWeekend) = restDays := rfl

theorem mem_dayWords_of_named {word : String} {days : List Weekday} (h : named word = .ok days) :
    (Weekday.normalName word, days) ∈ dayWords := by
  rw [named] at h
  split at h
  · rename_i hAll
    cases h
    rcases hAll with hWord | hWord | hWord <;> simp [dayWords, hWord]
  split at h
  · rename_i hWord
    cases h
    rw [filter_not_isWeekend]
    simp [dayWords, hWord]
  split at h
  · rename_i hRest
    cases h
    rw [filter_isWeekend]
    rcases hRest with hWord | hWord <;> simp [dayWords, hWord]
  split at h
  · rename_i d hDay
    cases h
    exact mem_dayWords_of_ofName (Weekday.normalName_normalName word) hDay
  · cases h

theorem named_eq_ok_iff {word : String} {days : List Weekday} :
    named word = .ok days ↔ (Weekday.normalName word, days) ∈ dayWords := by
  refine ⟨mem_dayWords_of_named, fun h => ?_⟩
  obtain ⟨hNormal, hNamed⟩ := named_of_mem_dayWords h
  rw [named_of_normalName rfl hNormal, hNamed]

theorem union_eq_ok {words : List String} {days : List Weekday} (h : union words = .ok days) :
    (∀ word ∈ words, IsKnown word) ∧ ∀ d, d ∈ days ↔ ∃ word ∈ words, StandsFor word d := by
  induction words generalizing days with
  | nil =>
    cases h
    simp
  | cons word rest ih =>
    rw [union] at h
    split at h
    · cases h
    · rename_i first hFirst
      obtain ⟨later, hLater, rfl⟩ := map_eq_ok_iff.mp h
      obtain ⟨hKnown, hDays⟩ := ih hLater
      have hMem := named_eq_ok_iff.mp hFirst
      refine ⟨List.forall_mem_cons.mpr ⟨⟨first, hMem⟩, hKnown⟩, ?_⟩
      intro d
      have hWord : StandsFor word d ↔ d ∈ first := by
        refine ⟨?_, fun hd => ⟨first, hMem, hd⟩⟩
        rintro ⟨days, hDays, hd⟩
        have hSame := (named_eq_ok_iff.mpr hDays).symm.trans hFirst
        exact Except.ok.inj hSame ▸ hd
      rw [List.mem_append, hDays, List.exists_mem_cons_iff, hWord]

theorem exists_union {words : List String} (h : ∀ word ∈ words, IsKnown word) :
    ∃ days, union words = .ok days := by
  induction words with
  | nil => exact ⟨[], rfl⟩
  | cons word rest ih =>
    obtain ⟨⟨first, hFirst⟩, hRest⟩ := List.forall_mem_cons.mp h
    obtain ⟨later, hLater⟩ := ih hRest
    exact ⟨first ++ later, by rw [union, named_eq_ok_iff.mpr hFirst, hLater]; rfl⟩

theorem ofNames_eq_ok {words : List String} {days : DaySet} (h : ofNames words = .ok days) :
    words ≠ [] ∧ (∀ word ∈ words, IsKnown word) ∧
      ∀ d, d ∈ days ↔ ∃ word ∈ words, StandsFor word d := by
  rw [ofNames] at h
  split at h
  · cases h
  · rename_i hWords
    obtain ⟨found, hFound, rfl⟩ := map_eq_ok_iff.mp h
    obtain ⟨hKnown, hDays⟩ := union_eq_ok hFound
    refine ⟨fun hNil => hWords (hNil ▸ rfl), hKnown, ?_⟩
    intro d
    rw [← hDays, List.mem_filter, List.contains_iff_mem]
    exact and_iff_right (Weekday.mem_all d)

theorem exists_ofNames {words : List String} (hWords : words ≠ [])
    (h : ∀ word ∈ words, IsKnown word) : ∃ days, ofNames words = .ok days := by
  obtain ⟨days, hDays⟩ := exists_union h
  refine ⟨Weekday.all.filter (days.contains ·), ?_⟩
  rw [ofNames, if_neg (by simpa using hWords), hDays]
  rfl

end DaySet

end Household
