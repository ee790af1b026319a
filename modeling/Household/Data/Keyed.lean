/-! # Values under names

A list of named values in increasing order of their names. The first entry of a name is the one
that counts, so the laws of look-up hold of every list, ordered or not.
-/

set_option autoImplicit false

namespace Household

abbrev Keyed (α : Type) := List (String × α)

namespace Keyed

variable {α β : Type}

def get? : Keyed α → String → Option α
  | [], _ => none
  | (k, v) :: rest, key => if k = key then some v else get? rest key

def contains (m : Keyed α) (key : String) : Bool := (get? m key).isSome

/-- The value takes the place that the order of the names gives it. -/
def insert : Keyed α → String → α → Keyed α
  | [], key, value => [(key, value)]
  | (k, v) :: rest, key, value =>
    if k = key then (key, value) :: rest
    else if key < k then (key, value) :: (k, v) :: rest
    else (k, v) :: insert rest key value

def erase : Keyed α → String → Keyed α
  | [], _ => []
  | (k, v) :: rest, key => if k = key then erase rest key else (k, v) :: erase rest key

/-- Of several values under one name the last stays. -/
def ofList (entries : List (String × α)) : Keyed α :=
  entries.foldl (fun m entry => insert m entry.1 entry.2) []

def mapValues (f : α → β) (m : Keyed α) : Keyed β := m.map fun entry => (entry.1, f entry.2)

@[simp] theorem get?_nil (key : String) : get? ([] : Keyed α) key = none := rfl

@[simp] theorem get?_insert (m : Keyed α) (key key' : String) (value : α) :
    get? (insert m key value) key' = if key = key' then some value else get? m key' := by
  induction m with
  | nil => rfl
  | cons entry rest ih =>
    obtain ⟨k, v⟩ := entry
    simp only [insert]
    split
    · rename_i h
      subst h
      by_cases hk : k = key' <;> simp [get?, hk]
    · rename_i h
      split
      · rfl
      · by_cases hk : k = key'
        · subst hk
          simp [get?, Ne.symm h]
        · simp [get?, hk, ih]

@[simp] theorem get?_erase (m : Keyed α) (key key' : String) :
    get? (erase m key) key' = if key = key' then none else get? m key' := by
  induction m with
  | nil => simp [erase]
  | cons entry rest ih =>
    obtain ⟨k, v⟩ := entry
    by_cases h : k = key
    · subst h
      rw [erase, if_pos rfl, ih]
      by_cases hk : k = key'
      · rw [if_pos hk, if_pos hk]
      · rw [if_neg hk, if_neg hk, get?, if_neg hk]
    · by_cases hk : k = key'
      · subst hk
        simp [erase, get?, h, Ne.symm h]
      · simp [erase, get?, h, hk, ih]

theorem get?_eq_lookup (m : Keyed α) (key : String) : get? m key = m.lookup key := by
  induction m with
  | nil => rfl
  | cons entry rest ih =>
    obtain ⟨k, v⟩ := entry
    by_cases hk : k = key
    · rw [get?, if_pos hk, hk, List.lookup_cons_self]
    · rw [get?, if_neg hk, ih, List.lookup_cons, beq_false_of_ne (Ne.symm hk)]

theorem get?_mapValues (f : α → β) (m : Keyed α) (key : String) :
    get? (mapValues f m) key = (get? m key).map f := by
  induction m with
  | nil => rfl
  | cons entry rest ih =>
    obtain ⟨k, v⟩ := entry
    by_cases hk : k = key <;> simp_all [mapValues, get?]

theorem mem_of_get? {m : Keyed α} {key : String} {value : α} (h : get? m key = some value) :
    (key, value) ∈ m := by
  induction m with
  | nil => simp at h
  | cons entry rest ih =>
    obtain ⟨k, v⟩ := entry
    by_cases hk : k = key
    · simp_all [get?]
    · simp [get?, hk] at h
      exact List.mem_cons_of_mem _ (ih h)

theorem mem_of_lookup {m : Keyed α} {key : String} {value : α} (h : m.lookup key = some value) :
    (key, value) ∈ m :=
  mem_of_get? (get?_eq_lookup m key ▸ h)

theorem eq_or_mem_of_mem_insert {m : Keyed α} {key : String} {value : α} {entry : String × α}
    (h : entry ∈ insert m key value) : entry = (key, value) ∨ entry ∈ m := by
  induction m with
  | nil => exact Or.inl (List.mem_singleton.mp h)
  | cons first rest ih =>
    obtain ⟨k, v⟩ := first
    simp only [insert] at h
    split at h
    · rcases List.mem_cons.mp h with h | h
      · exact Or.inl h
      · exact Or.inr (List.mem_cons_of_mem _ h)
    · split at h
      · exact List.mem_cons.mp h
      · rcases List.mem_cons.mp h with rfl | h
        · exact Or.inr List.mem_cons_self
        · exact (ih h).imp_right (List.mem_cons_of_mem _)

theorem mem_of_mem_erase {m : Keyed α} {key : String} {entry : String × α}
    (h : entry ∈ erase m key) : entry ∈ m := by
  induction m with
  | nil => cases h
  | cons first rest ih =>
    obtain ⟨k, v⟩ := first
    simp only [erase] at h
    split at h
    · exact List.mem_cons_of_mem _ (ih h)
    · rcases List.mem_cons.mp h with rfl | h
      · exact List.mem_cons_self
      · exact List.mem_cons_of_mem _ (ih h)

end Keyed

end Household
