/-! # Membership in blocks and runs of characters

A property of characters is kept either as block bounds (entry, exit, entry, exit, … in
increasing order) or as runs with a first member, a last member and a step.
-/

set_option autoImplicit false

namespace Household.Text

/-- Bounds are increasing, so the search ends at the first entry beyond `n`. -/
def inBlocks : List Nat → Nat → Bool
  | entry :: exit :: rest, n => if n < entry then false else n < exit || inBlocks rest n
  | [entry], n => entry ≤ n
  | [], _ => false

def inRun (first last step n : Nat) : Bool :=
  first ≤ n && n ≤ last && (n - first) % step == 0

theorem inBlocks_cons_of_lt {entry exit n : Nat} (rest : List Nat) (h : n < entry) :
    inBlocks (entry :: exit :: rest) n = false := by simp [inBlocks, h]

theorem inRun_iff {first last step n : Nat} :
    inRun first last step n = true ↔ first ≤ n ∧ n ≤ last ∧ (n - first) % step = 0 := by
  simp [inRun, and_assoc]

end Household.Text
