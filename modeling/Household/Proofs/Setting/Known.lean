import Household.Setting.Schema

/-! # The known part of a fragment

What is left of a fragment when every key that is not known is left out, at the top and inside the
tables that have known keys of their own.
-/

set_option autoImplicit false

namespace Household

namespace Shape

mutual

def known (shape : Shape) (value : Setting) : Setting :=
  match shape, value with
  | .table fields, .table entries =>
    .table (entries.filterMap fun entry => (knownUnder fields entry.1 entry.2).map (entry.1, ·))
  | _, value => value

/-- What is left of a value under a key; nothing if the key is not known. -/
def knownUnder : List (String × Shape) → String → Setting → Option Setting
  | [], _, _ => none
  | (name, shape) :: rest, key, value =>
    if name = key then some (known shape value) else knownUnder rest key value

end

end Shape

namespace Fragment

def known (fields : List (String × Shape)) (f : Fragment) : Fragment :=
  f.filterMap fun entry => (Shape.knownUnder fields entry.1 entry.2).map (entry.1, ·)

theorem known_table (fields : List (String × Shape)) (entries : Fragment) :
    Shape.known (.table fields) (.table entries) = .table (known fields entries) := by
  rw [Shape.known]
  rfl

variable {fields : List (String × Shape)} {key : String} {shape : Shape}

theorem knownUnder_of_get? (h : Keyed.get? fields key = some shape) (value : Setting) :
    Shape.knownUnder fields key value = some (shape.known value) := by
  induction fields with
  | nil => cases h
  | cons field rest ih =>
    obtain ⟨name, first⟩ := field
    rw [Keyed.get?] at h
    rw [Shape.knownUnder]
    by_cases hName : name = key
    · rw [if_pos hName] at h
      rw [if_pos hName, Option.some.inj h]
    · rw [if_neg hName] at h
      rw [if_neg hName]
      exact ih h

theorem get?_known (h : Keyed.get? fields key = some shape) (f : Fragment) :
    get? (known fields f) key = (get? f key).map shape.known := by
  induction f with
  | nil => rfl
  | cons entry rest ih =>
    obtain ⟨first, value⟩ := entry
    by_cases hFirst : first = key
    · subst hFirst
      have hUnder := knownUnder_of_get? h value
      simp [known, get?, Keyed.get?, hUnder]
    · have hTail : get? (known fields ((first, value) :: rest)) key =
          get? (known fields rest) key := by
        cases hUnder : Shape.knownUnder fields first value with
        | none => simp [known, hUnder]
        | some left => simp [known, get?, Keyed.get?, hUnder, hFirst]
      rw [hTail, ih, get?, get?, Keyed.get?, if_neg hFirst]

/-- A table without known keys of its own is kept whole, and so is every leaf. -/
theorem get?_known_of_whole (h : Keyed.get? fields key = some shape)
    (hWhole : ∀ inner, shape ≠ .table inner) (f : Fragment) :
    get? (known fields f) key = get? f key := by
  have hSame : ∀ value, shape.known value = value := by
    intro value
    cases shape with
    | table inner => exact absurd rfl (hWhole inner)
    | _ => simp [Shape.known]
  rw [get?_known h, funext hSame]
  exact Option.map_id'

end Fragment

end Household
