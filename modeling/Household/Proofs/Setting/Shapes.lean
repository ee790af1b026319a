import Household.Proofs.Setting.Merging
import Household.Setting.Schema

/-! # Merging keeps the shapes

A fragment whose known values fit their shapes, laid over another such fragment, gives a third: a
leaf takes over its shape from the overlay, and a table is merged entry by entry.
-/

set_option autoImplicit false

namespace Household

theorem checkAll_eq_ok_iff {check : String → Setting → Except Complaint Unit}
    {entries : List (String × Setting)} :
    checkAll check entries = .ok () ↔ ∀ entry ∈ entries, check entry.1 entry.2 = .ok () := by
  induction entries with
  | nil => simp [checkAll]
  | cons entry rest ih =>
    obtain ⟨key, value⟩ := entry
    rw [checkAll, List.forall_mem_cons]
    cases hCheck : check key value with
    | ok _ => simp [ih]
    | error c => simp

theorem checkWord_eq_ok_iff {key : String} {value : Setting} :
    checkWord key value = .ok () ↔ value = .unset ∨ ∃ word, value = .str word := by
  cases value <;> simp [checkWord]

namespace Shape

theorem checkField_eq_ok_iff {fields : List (String × Shape)} {key : String} {value : Setting} :
    checkField fields key value = .ok () ↔
      ∀ shape, Keyed.get? fields key = some shape → check shape value = .ok () := by
  induction fields with
  | nil => simp [checkField]
  | cons field rest ih =>
    obtain ⟨name, shape⟩ := field
    rw [checkField, Keyed.get?]
    split
    · cases hCheck : check shape value <;> simp [hCheck]
    · exact ih

theorem check_table_eq_ok_iff {shape : Shape} {entries : List (String × Setting)} :
    check shape (.table entries) = .ok () ↔
      (shape = .words ∧ checkAll checkWord entries = .ok ()) ∨
        ∃ fields, shape = .table fields ∧ checkAll (checkField fields) entries = .ok () := by
  cases shape <;> simp [check, Setting.int?]

theorem exists_int?_of_check_positive {value : Setting} (hSet : value.IsSet)
    (h : check .positive value = .ok ()) : ∃ n, value.int? = some n ∧ 1 ≤ n := by
  cases hInt : value.int? with
  | none =>
    have hCheck : check .positive value = .error ⟨[], .kind "integer" value.kind⟩ := by
      cases value with
      | unset => exact hSet.elim
      | _ => simp only [check, hInt]
    rw [hCheck] at h
    cases h
  | some n =>
    have hCheck : check .positive value = if 1 ≤ n then .ok () else .error ⟨[], .tooSmall n⟩ := by
      cases value with
      | unset => exact hSet.elim
      | _ => simp only [check, hInt]
    refine ⟨n, rfl, ?_⟩
    by_contra hSmall
    rw [hCheck, if_neg hSmall] at h
    cases h

end Shape

namespace Fragment

theorem checkAll_tableOf {check : String → Setting → Except Complaint Unit} {shape : Shape}
    {under : Option Setting}
    (hTable : ∀ entries, shape.check (.table entries) = .ok () → checkAll check entries = .ok ())
    (hUnder : ∀ u, under = some u → shape.check u = .ok ()) :
    checkAll check (tableOf under) = .ok () := by
  cases under with
  | none => rfl
  | some u =>
    cases u with
    | table entries => exact hTable entries (hUnder _ rfl)
    | _ => rfl

theorem checkAll_checkWord_merge {base overlay : Fragment}
    (hBase : checkAll checkWord base = .ok ()) (hOverlay : checkAll checkWord overlay = .ok ()) :
    checkAll checkWord (merge base overlay) = .ok () := by
  refine checkAll_eq_ok_iff.mpr (forall_mem_merge (P := fun k v => checkWord k v = .ok ())
    (checkAll_eq_ok_iff.mp hBase) ?_)
  intro key value merged hMem hMerged
  have hWord := checkAll_eq_ok_iff.mp hOverlay _ hMem
  rcases laidOver_eq_some hMerged with ⟨entries, rfl, -⟩ | ⟨-, -, rfl⟩
  · cases hWord
  · exact hWord

mutual

theorem check_laidOver {shape : Shape} {under : Option Setting} {value merged : Setting}
    (hUnder : ∀ u, under = some u → shape.check u = .ok ()) (hValue : shape.check value = .ok ())
    (h : laidOver under value = some merged) : shape.check merged = .ok () := by
  rcases laidOver_eq_some h with ⟨entries, rfl, rfl⟩ | ⟨-, -, rfl⟩
  · rcases Shape.check_table_eq_ok_iff.mp hValue with ⟨rfl, hEntries⟩ | ⟨fields, rfl, hEntries⟩
    · have hBase : checkAll checkWord (tableOf under) = .ok () :=
        checkAll_tableOf (by simp [Shape.check]) hUnder
      exact Shape.check_table_eq_ok_iff.mpr
        (Or.inl ⟨rfl, checkAll_checkWord_merge hBase hEntries⟩)
    · have hBase : checkAll (Shape.checkField fields) (tableOf under) = .ok () :=
        checkAll_tableOf (by simp [Shape.check]) hUnder
      exact Shape.check_table_eq_ok_iff.mpr
        (Or.inr ⟨fields, rfl, checkAll_checkField_merge hBase hEntries⟩)
  · exact hValue
termination_by (sizeOf value, 0)

theorem checkAll_checkField_merge {fields : List (String × Shape)} {base overlay : Fragment}
    (hBase : checkAll (Shape.checkField fields) base = .ok ())
    (hOverlay : checkAll (Shape.checkField fields) overlay = .ok ()) :
    checkAll (Shape.checkField fields) (merge base overlay) = .ok () := by
  refine checkAll_eq_ok_iff.mpr (forall_mem_merge
    (P := fun k v => Shape.checkField fields k v = .ok ()) (checkAll_eq_ok_iff.mp hBase) ?_)
  intro key value merged hMem hMerged
  have hSmaller := List.sizeOf_lt_of_mem hMem
  refine Shape.checkField_eq_ok_iff.mpr ?_
  intro shape hShape
  refine check_laidOver ?_ ?_ hMerged
  · intro u hu
    exact Shape.checkField_eq_ok_iff.mp
      (checkAll_eq_ok_iff.mp hBase _ (Keyed.mem_of_get? hu)) shape hShape
  · exact Shape.checkField_eq_ok_iff.mp (checkAll_eq_ok_iff.mp hOverlay _ hMem) shape hShape
termination_by (sizeOf overlay, 1)
decreasing_by
  simp only [Prod.mk.sizeOf_spec] at hSmaller
  exact Prod.Lex.left _ _ (by omega)

end

theorem check_mergeAll {layers : List Fragment} (h : ∀ layer ∈ layers, layer.check = .ok ()) :
    check (mergeAll layers) = .ok () := by
  induction layers using List.reverseRecOn with
  | nil => rfl
  | append_singleton layers top ih =>
    rw [mergeAll_append]
    have hLayers := ih fun layer hLayer => h layer (List.mem_append_left _ hLayer)
    refine checkAll_checkField_merge hLayers ?_
    exact h top (List.mem_append_right _ (List.mem_singleton.mpr rfl))

end Fragment

end Household
