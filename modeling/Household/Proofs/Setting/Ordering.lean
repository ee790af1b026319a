import Household.Proofs.Data.KeyOrder
import Household.Proofs.Setting.Merging

/-! # The order of the keys

At every depth the keys of a merge stand in increasing order, whatever the fragments looked like
that were merged: each key has one value.
-/

set_option autoImplicit false

namespace Household

namespace Setting

mutual

/-- The keys of the value, and of every table inside it, stand in increasing order. -/
def IsOrdered : Setting → Prop
  | .table entries => Keyed.Ordered entries ∧ AllOrdered entries
  | _ => True

def AllOrdered : List (String × Setting) → Prop
  | [] => True
  | (_, value) :: rest => IsOrdered value ∧ AllOrdered rest

end

theorem allOrdered_iff {entries : List (String × Setting)} :
    AllOrdered entries ↔ ∀ entry ∈ entries, IsOrdered entry.2 := by
  induction entries with
  | nil => simp [AllOrdered]
  | cons entry rest ih => simp [AllOrdered, ih]

end Setting

namespace Fragment

def Ordered (f : Fragment) : Prop := (Setting.table f).IsOrdered

theorem Ordered.of_get? {f : Fragment} {key : String} {value : Setting} (h : f.Ordered)
    (hKey : get? f key = some value) : value.IsOrdered :=
  Setting.allOrdered_iff.mp h.2 _ (Keyed.mem_of_get? hKey)

theorem ordered_tableOf {under : Option Setting}
    (h : ∀ value, under = some value → value.IsOrdered) : Ordered (tableOf under) := by
  cases under with
  | none => exact ⟨List.Pairwise.nil, trivial⟩
  | some value =>
    cases value with
    | table entries => exact h _ rfl
    | _ => exact ⟨List.Pairwise.nil, trivial⟩

theorem keys_ordered_merge {base : Fragment} (hBase : Keyed.Ordered base) (overlay : Fragment) :
    Keyed.Ordered (merge base overlay) := by
  induction overlay with
  | nil =>
    rw [merge_nil]
    exact hBase
  | cons entry rest ih =>
    obtain ⟨key, value⟩ := entry
    rw [merge]
    cases laidOver (Keyed.get? base key) value with
    | none => exact ih.erase
    | some merged => exact ih.insert

mutual

theorem isOrdered_of_laidOver {under : Option Setting} {value merged : Setting}
    (hUnder : ∀ u, under = some u → u.IsOrdered) (h : laidOver under value = some merged) :
    merged.IsOrdered := by
  rcases laidOver_eq_some h with ⟨entries, rfl, rfl⟩ | ⟨hSet, hTable, rfl⟩
  · exact ordered_merge (ordered_tableOf hUnder) entries
  · cases merged with
    | table => cases hTable
    | _ => trivial
termination_by (sizeOf value, 0)

theorem ordered_merge {base : Fragment} (hBase : base.Ordered) (overlay : Fragment) :
    Ordered (merge base overlay) := by
  refine ⟨keys_ordered_merge hBase.1 overlay, ?_⟩
  refine Setting.allOrdered_iff.mpr (forall_mem_merge (P := fun _ v => v.IsOrdered)
    (Setting.allOrdered_iff.mp hBase.2) ?_)
  intro key value merged hMem hMerged
  have hSmaller := List.sizeOf_lt_of_mem hMem
  refine isOrdered_of_laidOver ?_ hMerged
  intro u hu
  exact hBase.of_get? hu
termination_by (sizeOf overlay, 1)
decreasing_by
  simp only [Prod.mk.sizeOf_spec] at hSmaller
  exact Prod.Lex.left _ _ (by omega)

end

theorem ordered_mergeAll (layers : List Fragment) : Ordered (mergeAll layers) := by
  induction layers using List.reverseRecOn with
  | nil => exact ⟨List.Pairwise.nil, trivial⟩
  | append_singleton layers top ih =>
    rw [mergeAll_append]
    exact ordered_merge ih top

end Fragment

end Household
