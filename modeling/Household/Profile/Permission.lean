import Household.Text.Split

/-! # Permissions

Actions have names with points between their parts. A pattern is a star, a name, or a name followed
by a point and a star, which stands for that action and all below it. What is denied is refused
whatever is allowed.
-/

set_option autoImplicit false

namespace Household

open Household.Text

/-- `domain` itself, or `domain` followed by a point. -/
def isWithin (domain action : List Char) : Bool :=
  match dropStart? domain action with
  | some [] => true
  | some (c :: _) => c == '.'
  | none => false

def patternMatches (pattern action : String) : Bool :=
  if pattern = "*" then true
  else
    match dropEnd? ['.', '*'] pattern.toList with
    | some domain => isWithin domain action.toList
    | none => pattern = action

structure Permissions where
  allowed : List String
  denied : List String
  deriving DecidableEq, Repr

def Permissions.allows (p : Permissions) (action : String) : Bool :=
  !p.denied.any (patternMatches · action) && p.allowed.any (patternMatches · action)

theorem Permissions.allows_iff {p : Permissions} {action : String} :
    p.allows action = true ↔
      (∀ pattern ∈ p.denied, patternMatches pattern action = false) ∧
        ∃ pattern ∈ p.allowed, patternMatches pattern action = true := by
  simp [allows]

theorem isWithin_iff {domain action : List Char} :
    isWithin domain action = true ↔ action = domain ∨ ∃ rest, action = domain ++ '.' :: rest := by
  unfold isWithin
  cases h : dropStart? domain action with
  | none =>
    have hne : ∀ rest, action ≠ domain ++ rest := by
      intro rest hr
      rw [dropStart?_eq_some_iff.2 hr] at h
      cases h
    simp only [Bool.false_eq_true, false_iff, not_or, not_exists]
    exact ⟨fun e => hne [] (by simpa using e), fun rest => hne _⟩
  | some rest =>
    rw [dropStart?_eq_some_iff] at h
    subst h
    cases rest with
    | nil => simp
    | cons c rest =>
      simp only [List.append_cancel_left_eq, List.cons.injEq, beq_iff_eq, List.append_right_eq_self,
        List.cons_ne_nil, false_or]
      exact ⟨fun h => ⟨rest, h, rfl⟩, fun ⟨_, h, _⟩ => h⟩

end Household
