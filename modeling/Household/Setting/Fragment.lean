import Household.Setting.Basic

/-! # Merging fragments

An overlay wins key by key: a leaf replaces what was there, a table is merged into a table and
replaces anything else, and an unset value erases the key. No unset value enters the result.
-/

set_option autoImplicit false

namespace Household

namespace Fragment

def get? (f : Fragment) (key : String) : Option Setting := Keyed.get? f key

def at? (f : Fragment) : List String → Option Setting
  | [] => none
  | [key] => get? f key
  | key :: path =>
    match get? f key with
    | some (.table entries) => at? entries path
    | _ => none

def atPath? (f : Fragment) (path : String) : Option Setting :=
  at? f ((Text.splitAt '.' path.toList).map String.ofList)

def tableOf : Option Setting → Fragment
  | some (.table entries) => entries
  | _ => []

mutual

/-- What stands under a key after `value` is laid over what stood there. -/
def laidOver (under : Option Setting) : Setting → Option Setting
  | .unset => none
  | .table entries => some (.table (merge (tableOf under) entries))
  | value => some value

/-- `overlay` merged over `base`. Of two entries under one key the first decides, as in look-up. -/
def merge (base : List (String × Setting)) : List (String × Setting) → List (String × Setting)
  | [] => base
  | (key, value) :: rest =>
    match laidOver (Keyed.get? base key) value with
    | none => Keyed.erase (merge base rest) key
    | some merged => Keyed.insert (merge base rest) key merged

end

def withoutUnset (f : Fragment) : Fragment := merge [] f

def mergeAll (layers : List Fragment) : Fragment := layers.foldl merge []

@[simp] theorem merge_nil (base : Fragment) : merge base [] = base := by simp [merge]

@[simp] theorem laidOver_unset (under : Option Setting) : laidOver under .unset = none := by
  simp [laidOver]

@[simp] theorem laidOver_table (under : Option Setting) (entries : Fragment) :
    laidOver under (.table entries) = some (.table (merge (tableOf under) entries)) := by
  simp [laidOver]

/-- Merging is decided key by key. -/
theorem get?_merge (base overlay : Fragment) (key : String) :
    get? (merge base overlay) key =
      match get? overlay key with
      | none => get? base key
      | some value => laidOver (get? base key) value := by
  unfold get?
  induction overlay with
  | nil => simp
  | cons entry rest ih =>
    obtain ⟨k, v⟩ := entry
    rw [merge, Keyed.get?]
    by_cases hk : k = key
    · subst hk
      cases h : laidOver (Keyed.get? base k) v <;> simp [h]
    · cases laidOver (Keyed.get? base k) v <;> simp [hk, ih]

theorem mergeAll_append (layers : List Fragment) (top : Fragment) :
    mergeAll (layers ++ [top]) = merge (mergeAll layers) top := by simp [mergeAll]

end Fragment

end Household
