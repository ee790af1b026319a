import Mathlib.Data.List.Induction
import Household.Data.Keyed

/-! # Values in the order of their names

Inserting and erasing keep the order of the names, so each name stands for one value only, and what
a list holds is what a look-up finds.
-/

set_option autoImplicit false

namespace Household.Keyed

variable {α : Type} {m : Keyed α} {key : String} {value : α}

def Ordered (m : Keyed α) : Prop := m.Pairwise fun a b => a.1 < b.1

theorem Ordered.insert (h : Ordered m) : Ordered (m.insert key value) := by
  induction m with
  | nil => exact List.pairwise_singleton _ _
  | cons entry rest ih =>
    obtain ⟨k, v⟩ := entry
    obtain ⟨hFirst, hRest⟩ := List.pairwise_cons.mp h
    rw [Keyed.insert]
    split
    · rename_i hSame
      subst hSame
      exact List.pairwise_cons.mpr ⟨hFirst, hRest⟩
    · rename_i hNe
      split
      · rename_i hLess
        refine List.pairwise_cons.mpr ⟨fun e he => ?_, h⟩
        rcases List.mem_cons.mp he with rfl | he
        · exact hLess
        · exact String.lt_trans hLess (hFirst e he)
      · rename_i hNotLess
        refine List.pairwise_cons.mpr ⟨fun e he => ?_, ih hRest⟩
        rcases eq_or_mem_of_mem_insert he with rfl | he
        · have hLe := String.not_lt.mp hNotLess
          by_contra hNot
          exact hNe (String.le_antisymm hLe (String.not_lt.mp hNot))
        · exact hFirst e he

theorem Ordered.erase (h : Ordered m) : Ordered (m.erase key) := by
  induction m with
  | nil => exact h
  | cons entry rest ih =>
    obtain ⟨k, v⟩ := entry
    obtain ⟨hFirst, hRest⟩ := List.pairwise_cons.mp h
    rw [Keyed.erase]
    split
    · exact ih hRest
    · refine List.pairwise_cons.mpr ⟨?_, ih hRest⟩
      intro e he
      exact hFirst e (mem_of_mem_erase he)

theorem ordered_iff : Ordered m ↔ (m.map Prod.fst).Pairwise (· < ·) := List.pairwise_map.symm

theorem Ordered.nodup_keys (h : Ordered m) : (m.map Prod.fst).Nodup := by
  rw [List.Nodup, List.pairwise_map]
  refine h.imp ?_
  intro a b hLess hSame
  rw [hSame] at hLess
  exact String.lt_irrefl _ hLess

theorem get?_eq_none_of_notMem (h : key ∉ m.map Prod.fst) : m.get? key = none := by
  cases hFind : m.get? key with
  | none => rfl
  | some value => exact absurd (List.mem_map_of_mem (mem_of_get? hFind)) h

/-- Where no name comes twice, a look-up finds all there is. -/
theorem get?_of_mem (hNodup : (m.map Prod.fst).Nodup) (hMem : (key, value) ∈ m) :
    m.get? key = some value := by
  induction m with
  | nil => cases hMem
  | cons entry rest ih =>
    obtain ⟨k, v⟩ := entry
    rw [List.map_cons, List.nodup_cons] at hNodup
    rw [get?]
    rcases List.mem_cons.mp hMem with hSame | hMem
    · cases hSame
      rw [if_pos rfl]
    · have hNe : k ≠ key := by
        rintro rfl
        exact hNodup.1 (List.mem_map.mpr ⟨_, hMem, rfl⟩)
      rw [if_neg hNe]
      exact ih hNodup.2 hMem

theorem ordered_foldl_insert (entries : List (String × α)) (h : Ordered m) :
    Ordered (entries.foldl (fun m entry => m.insert entry.1 entry.2) m) := by
  induction entries generalizing m with
  | nil => exact h
  | cons entry rest ih => exact ih h.insert

theorem ordered_ofList (entries : List (String × α)) : Ordered (ofList entries) :=
  ordered_foldl_insert entries List.Pairwise.nil

theorem mem_of_mem_foldl_insert {entry : String × α} (entries : List (String × α))
    (h : entry ∈ entries.foldl (fun m entry => Keyed.insert m entry.1 entry.2) m) :
    entry ∈ m ∨ entry ∈ entries := by
  induction entries generalizing m with
  | nil => exact .inl h
  | cons first rest ih =>
    rcases ih h with hInsert | hRest
    · rcases eq_or_mem_of_mem_insert hInsert with rfl | hOld
      · exact .inr List.mem_cons_self
      · exact .inl hOld
    · exact .inr (List.mem_cons_of_mem _ hRest)

theorem mem_of_mem_ofList {entries : List (String × α)} {entry : String × α}
    (h : entry ∈ ofList entries) : entry ∈ entries := by
  rcases mem_of_mem_foldl_insert entries h with hNil | hMem
  · cases hNil
  · exact hMem

theorem get?_ofList_append_singleton (entries : List (String × α)) (entry : String × α)
    (key : String) :
    (ofList (entries ++ [entry])).get? key =
      if entry.1 = key then some entry.2 else (ofList entries).get? key := by
  rw [ofList, List.foldl_append, List.foldl_cons, List.foldl_nil, get?_insert]
  rfl

theorem exists_mem_ofList {entries : List (String × α)} {entry : String × α}
    (h : entry ∈ entries) : ∃ value, (entry.1, value) ∈ ofList entries := by
  suffices hFound : ∃ value, (ofList entries).get? entry.1 = some value from
    hFound.imp fun _ => mem_of_get?
  induction entries using List.reverseRecOn with
  | nil => cases h
  | append_singleton earlier last ih =>
    rw [get?_ofList_append_singleton]
    split
    · exact ⟨_, rfl⟩
    · rename_i hOther
      rcases List.mem_append.mp h with hEarlier | hLast
      · exact ih hEarlier
      · rw [List.mem_singleton.mp hLast] at hOther
        exact absurd rfl hOther

end Household.Keyed
