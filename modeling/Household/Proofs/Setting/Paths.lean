import Household.Setting.Fragment

/-! # What stands at a path after merging

A fragment can affect a path in three ways: it sets a leaf at its end, it puts a table there, or it
deletes what was there, by an unset value at the end or by a value that is no table on the way. Of
fragments merged one over the other the last that affects a path decides what stands at its end.
-/

set_option autoImplicit false

namespace Household

/-- What is found at the end of a path. -/
inductive Standing where
  | absent
  | leaf (value : Setting)
  | table

namespace Setting

def leaves : Setting → Standing
  | .unset => .absent
  | .table _ => .table
  | value => .leaf value

mutual

/-- Neither the value nor anything inside it is unset. -/
def IsSet : Setting → Prop
  | .unset => False
  | .table entries => AllSet entries
  | _ => True

def AllSet : List (String × Setting) → Prop
  | [] => True
  | (_, value) :: rest => IsSet value ∧ AllSet rest

end

theorem allSet_iff {entries : List (String × Setting)} :
    AllSet entries ↔ ∀ entry ∈ entries, IsSet entry.2 := by
  induction entries with
  | nil => simp [AllSet]
  | cons entry rest ih => simp [AllSet, ih]

end Setting

namespace Fragment

def stands (f : Fragment) (path : List String) : Standing :=
  match at? f path with
  | none => .absent
  | some (.table _) => .table
  | some value => .leaf value

/-- The fragment has a say on what stands at the end of the path, and what it makes of it: it holds
a value there, or a value that is no table on the way. -/
inductive Affects (f : Fragment) (path : List String) : Standing → Prop where
  | here {value : Setting} (hAt : at? f path = some value) : Affects f path value.leaves
  | blocked {way rest : List String} {value : Setting} (hPath : path = way ++ rest)
      (hRest : rest ≠ []) (hAt : at? f way = some value) (hValue : value.table? = none) :
      Affects f path .absent

/-- What the last of the layers that affects the path makes of it; nothing if none does. -/
def LastEffect (layers : List Fragment) (path : List String) (standing : Standing) : Prop :=
  (∃ before layer after, layers = before ++ layer :: after ∧ Affects layer path standing ∧
    ∀ later ∈ after, ∀ s, ¬Affects later path s) ∨
  standing = .absent ∧ ∀ layer ∈ layers, ∀ s, ¬Affects layer path s

theorem at?_cons {f : Fragment} {key : String} {path : List String} (hPath : path ≠ []) :
    at? f (key :: path) =
      match get? f key with
      | some (.table entries) => at? entries path
      | _ => none := by
  cases path with
  | nil => exact absurd rfl hPath
  | cons next rest => rfl

theorem at?_cons_table {f entries : Fragment} {key : String} {path : List String}
    (hPath : path ≠ []) (hKey : get? f key = some (.table entries)) :
    at? f (key :: path) = at? entries path := by rw [at?_cons hPath, hKey]

theorem at?_cons_value {f : Fragment} {key : String} {path : List String} {value : Setting}
    (hPath : path ≠ []) (hKey : get? f key = some value) (hValue : value.table? = none) :
    at? f (key :: path) = none := by
  rw [at?_cons hPath, hKey]
  cases value with
  | table => cases hValue
  | _ => rfl

theorem at?_cons_none {f : Fragment} {key : String} {path : List String}
    (hKey : get? f key = none) : at? f (key :: path) = none := by
  cases path with
  | nil => exact hKey
  | cons next rest => rw [at?_cons (by simp), hKey]

theorem affects_singleton_iff {f : Fragment} {key : String} {standing : Standing} :
    Affects f [key] standing ↔ ∃ value, get? f key = some value ∧ standing = value.leaves := by
  constructor
  · intro h
    cases h with
    | here hAt => exact ⟨_, hAt, rfl⟩
    | @blocked way rest value hPath hRest hAt hValue =>
      -- A path of one key has no proper beginning but the empty one, where nothing stands.
      have hWay : way = [] := by
        cases way with
        | nil => rfl
        | cons first way => simp_all
      rw [hWay] at hAt
      cases hAt
  · rintro ⟨value, hAt, rfl⟩
    exact .here hAt

theorem affects_cons_table_iff {f entries : Fragment} {key : String} {path : List String}
    {standing : Standing} (hPath : path ≠ []) (hKey : get? f key = some (.table entries)) :
    Affects f (key :: path) standing ↔ Affects entries path standing := by
  constructor
  · intro h
    cases h with
    | here hAt => exact .here ((at?_cons_table hPath hKey).symm.trans hAt)
    | @blocked way rest value hSplit hRest hAt hValue =>
      cases way with
      | nil => cases hAt
      | cons first way =>
        obtain ⟨rfl, rfl⟩ := List.cons.inj hSplit
        by_cases hWay : way = []
        · subst hWay
          obtain rfl := Option.some.inj (hKey.symm.trans hAt)
          cases hValue
        · exact .blocked rfl hRest ((at?_cons_table hWay hKey).symm.trans hAt) hValue
  · intro h
    cases h with
    | here hAt => exact .here ((at?_cons_table hPath hKey).trans hAt)
    | @blocked way rest value hSplit hRest hAt hValue =>
      have hWay : way ≠ [] := by
        rintro rfl
        cases hAt
      have hSplit' : key :: path = (key :: way) ++ rest := by rw [hSplit, List.cons_append]
      exact .blocked hSplit' hRest ((at?_cons_table hWay hKey).trans hAt) hValue

theorem affects_cons_value_iff {f : Fragment} {key : String} {path : List String} {value : Setting}
    {standing : Standing} (hPath : path ≠ []) (hKey : get? f key = some value)
    (hValue : value.table? = none) : Affects f (key :: path) standing ↔ standing = .absent := by
  constructor
  · intro h
    cases h with
    | here hAt =>
      rw [at?_cons_value hPath hKey hValue] at hAt
      cases hAt
    | blocked => rfl
  · rintro rfl
    have hSplit : key :: path = [key] ++ path := rfl
    exact .blocked hSplit hPath hKey hValue

theorem not_affects_cons {f : Fragment} {key : String} {path : List String} {standing : Standing}
    (hKey : get? f key = none) : ¬Affects f (key :: path) standing := by
  intro h
  cases h with
  | here hAt =>
    rw [at?_cons_none hKey] at hAt
    cases hAt
  | @blocked way rest value hSplit hRest hAt =>
    cases way with
    | nil => cases hAt
    | cons first way =>
      obtain ⟨rfl, rfl⟩ := List.cons.inj hSplit
      rw [at?_cons_none hKey] at hAt
      cases hAt

end Fragment

end Household
