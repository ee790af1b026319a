import Mathlib.Data.List.Induction
import Household.Proofs.Setting.Paths

/-! # The last fragment decides

One merge takes over what the overlay says about a path and leaves the rest as it was. Over a list
of fragments the last one that affects a path therefore decides what stands there, and nothing that
is unset is left over.
-/

set_option autoImplicit false

namespace Household.Fragment

theorem stands_cons_table {f entries : Fragment} {key : String} {path : List String}
    (hPath : path ≠ []) (hKey : get? f key = some (.table entries)) :
    stands f (key :: path) = stands entries path := by
  rw [stands, at?_cons_table hPath hKey, stands]

theorem stands_cons_value {f : Fragment} {key : String} {path : List String} {value : Setting}
    (hPath : path ≠ []) (hKey : get? f key = some value) (hValue : value.table? = none) :
    stands f (key :: path) = .absent := by
  rw [stands, at?_cons_value hPath hKey hValue]

theorem stands_cons_none {f : Fragment} {key : String} {path : List String}
    (hKey : get? f key = none) : stands f (key :: path) = .absent := by
  rw [stands, at?_cons_none hKey]

theorem stands_empty (path : List String) : stands [] path = .absent := by
  cases path with
  | nil => rfl
  | cons key rest => exact stands_cons_none rfl

theorem stands_tableOf (f : Fragment) (key : String) {path : List String} (hPath : path ≠ []) :
    stands (tableOf (get? f key)) path = stands f (key :: path) := by
  cases hKey : get? f key with
  | none => exact (stands_empty path).trans (stands_cons_none hKey).symm
  | some value =>
    cases value with
    | table entries => exact (stands_cons_table hPath hKey).symm
    | _ => exact (stands_empty path).trans (stands_cons_value hPath hKey rfl).symm

theorem stands_singleton_merge {base overlay : Fragment} {key : String} {value : Setting}
    (hKey : get? overlay key = some value) : stands (merge base overlay) [key] = value.leaves := by
  rw [stands, at?, get?_merge, hKey]
  cases value <;> simp [laidOver, Setting.leaves]

theorem stands_cons_merge_table {base overlay entries : Fragment} {key : String}
    {path : List String} (hPath : path ≠ []) (hKey : get? overlay key = some (.table entries)) :
    stands (merge base overlay) (key :: path) =
      stands (merge (tableOf (get? base key)) entries) path := by
  apply stands_cons_table hPath
  rw [get?_merge, hKey]
  exact laidOver_table _ _

theorem stands_cons_merge_value {base overlay : Fragment} {key : String} {path : List String}
    {value : Setting} (hPath : path ≠ []) (hKey : get? overlay key = some value)
    (hValue : value.table? = none) : stands (merge base overlay) (key :: path) = .absent := by
  have hMerge : get? (merge base overlay) key = laidOver (get? base key) value := by
    rw [get?_merge, hKey]
  cases value with
  | table => cases hValue
  | unset =>
    rw [laidOver_unset] at hMerge
    exact stands_cons_none hMerge
  | _ =>
    rw [laidOver] at hMerge
    · exact stands_cons_value hPath hMerge rfl
    · simp
    · simp

theorem not_affects_nil (f : Fragment) (standing : Standing) : ¬Affects f [] standing := by
  intro h
  cases h with
  | here hAt => cases hAt
  | blocked hPath hRest => exact hRest (List.append_eq_nil_iff.mp hPath.symm).2

theorem stands_merge_of_affects {base overlay : Fragment} {path : List String}
    {standing : Standing} (h : Affects overlay path standing) :
    stands (merge base overlay) path = standing := by
  induction path generalizing base overlay with
  | nil => exact absurd h (not_affects_nil overlay standing)
  | cons key rest ih =>
    by_cases hRest : rest = []
    · subst hRest
      obtain ⟨value, hKey, rfl⟩ := affects_singleton_iff.mp h
      exact stands_singleton_merge hKey
    · cases hKey : get? overlay key with
      | none => exact absurd h (not_affects_cons hKey)
      | some value =>
        cases value with
        | table entries =>
          -- The rest of the path goes on in the table of the overlay, laid over the one below it.
          rw [stands_cons_merge_table hRest hKey]
          exact ih ((affects_cons_table_iff hRest hKey).mp h)
        | _ =>
          rw [stands_cons_merge_value hRest hKey rfl]
          exact ((affects_cons_value_iff hRest hKey rfl).mp h).symm

theorem stands_merge_of_not_affects {base overlay : Fragment} {path : List String}
    (h : ∀ standing, ¬Affects overlay path standing) :
    stands (merge base overlay) path = stands base path := by
  induction path generalizing base overlay with
  | nil => rfl
  | cons key rest ih =>
    cases hKey : get? overlay key with
    | none =>
      have hMerge : get? (merge base overlay) key = get? base key := by rw [get?_merge, hKey]
      by_cases hRest : rest = []
      · subst hRest
        rw [stands, at?, hMerge, stands, at?]
      · rw [← stands_tableOf _ _ hRest, hMerge, stands_tableOf _ _ hRest]
    | some value =>
      by_cases hRest : rest = []
      · subst hRest
        exact absurd (affects_singleton_iff.mpr ⟨value, hKey, rfl⟩) (h _)
      · cases value with
        | table entries =>
          rw [stands_cons_merge_table hRest hKey, ih, stands_tableOf _ _ hRest]
          intro standing hStanding
          exact h standing ((affects_cons_table_iff hRest hKey).mpr hStanding)
        | _ => exact absurd ((affects_cons_value_iff hRest hKey rfl).mpr rfl) (h _)

theorem lastEffect_nil_iff {path : List String} {standing : Standing} :
    LastEffect [] path standing ↔ standing = .absent := by simp [LastEffect]

theorem lastEffect_append_iff {layers : List Fragment} {top : Fragment} {path : List String}
    {standing : Standing} :
    LastEffect (layers ++ [top]) path standing ↔
      Affects top path standing ∨
        (∀ s, ¬Affects top path s) ∧ LastEffect layers path standing := by
  constructor
  · rintro (⟨before, layer, after, hLayers, hLayer, hAfter⟩ | ⟨hAbsent, hAll⟩)
    · -- The deciding layer is the one on top exactly if none comes after it.
      rcases List.eq_nil_or_concat after with rfl | ⟨after, last, rfl⟩
      · obtain ⟨rfl, hTop⟩ := List.append_inj' hLayers rfl
        obtain rfl := (List.cons.inj hTop).1
        exact Or.inl hLayer
      · rw [List.concat_eq_append, ← List.cons_append, ← List.append_assoc] at hLayers
        obtain ⟨rfl, hTop⟩ := List.append_inj' hLayers rfl
        obtain rfl := (List.cons.inj hTop).1
        refine Or.inr ⟨hAfter _ (by simp), Or.inl ⟨before, layer, after, rfl, hLayer, ?_⟩⟩
        intro later hLater
        exact hAfter later (by simp [hLater])
    · refine Or.inr ⟨hAll top (by simp), Or.inr ⟨hAbsent, ?_⟩⟩
      intro layer hLayer
      exact hAll layer (List.mem_append_left _ hLayer)
  · rintro (hTop | ⟨hTop, ⟨before, layer, after, rfl, hLayer, hAfter⟩ | ⟨hAbsent, hAll⟩⟩)
    · exact Or.inl ⟨layers, top, [], rfl, hTop, by simp⟩
    · refine Or.inl ⟨before, layer, after ++ [top], by simp, hLayer, ?_⟩
      intro later hLater
      rcases List.mem_append.mp hLater with hLater | hLater
      · exact hAfter later hLater
      · rw [List.mem_singleton.mp hLater]
        exact hTop
    · refine Or.inr ⟨hAbsent, ?_⟩
      intro layer hLayer
      rcases List.mem_append.mp hLayer with hLayer | hLayer
      · exact hAll layer hLayer
      · rw [List.mem_singleton.mp hLayer]
        exact hTop

theorem stands_mergeAll_iff (layers : List Fragment) (path : List String) (standing : Standing) :
    stands (mergeAll layers) path = standing ↔ LastEffect layers path standing := by
  induction layers using List.reverseRecOn generalizing standing with
  | nil =>
    rw [lastEffect_nil_iff, mergeAll, List.foldl_nil, stands_empty]
    exact eq_comm
  | append_singleton layers top ih =>
    rw [mergeAll_append, lastEffect_append_iff, ← ih standing]
    by_cases hTop : ∃ s, Affects top path s
    · obtain ⟨s, hAffects⟩ := hTop
      rw [stands_merge_of_affects hAffects]
      constructor
      · rintro rfl
        exact Or.inl hAffects
      · rintro (hStanding | ⟨hNone, -⟩)
        · -- Both effects stand after a merge over nothing, so they are the same.
          rw [← @stands_merge_of_affects [] top path s hAffects, stands_merge_of_affects hStanding]
        · exact absurd hAffects (hNone s)
    · have hNone : ∀ s, ¬Affects top path s := not_exists.mp hTop
      rw [stands_merge_of_not_affects hNone]
      exact ⟨fun h => Or.inr ⟨hNone, h⟩, fun h => (h.resolve_left (hNone standing)).2⟩

/-- A property of entries passes to a merge from what lies below it, if it passes to what each
entry of the overlay makes of the value below it. -/
theorem forall_mem_merge {P : String → Setting → Prop} {base overlay : Fragment}
    (hBase : ∀ entry ∈ base, P entry.1 entry.2)
    (hOverlay : ∀ key value merged, (key, value) ∈ overlay →
      laidOver (Keyed.get? base key) value = some merged → P key merged) :
    ∀ entry ∈ merge base overlay, P entry.1 entry.2 := by
  induction overlay with
  | nil =>
    rw [merge_nil]
    exact hBase
  | cons first rest ih =>
    obtain ⟨key, value⟩ := first
    have hRest := ih fun k v merged hMem => hOverlay k v merged (List.mem_cons_of_mem _ hMem)
    intro entry hEntry
    rw [merge] at hEntry
    cases hMerged : laidOver (Keyed.get? base key) value with
    | none =>
      rw [hMerged] at hEntry
      exact hRest entry (Keyed.mem_of_mem_erase hEntry)
    | some merged =>
      rw [hMerged] at hEntry
      rcases Keyed.eq_or_mem_of_mem_insert hEntry with rfl | hEntry
      · exact hOverlay key value merged List.mem_cons_self hMerged
      · exact hRest entry hEntry

theorem laidOver_eq_some {under : Option Setting} {value merged : Setting}
    (h : laidOver under value = some merged) :
    (∃ entries, value = .table entries ∧ merged = .table (merge (tableOf under) entries)) ∨
      value ≠ .unset ∧ value.table? = none ∧ merged = value := by
  cases value with
  | unset =>
    rw [laidOver_unset] at h
    cases h
  | table entries =>
    rw [laidOver_table] at h
    exact Or.inl ⟨entries, rfl, (Option.some.inj h).symm⟩
  | _ =>
    simp only [laidOver, Option.some.injEq] at h
    exact Or.inr ⟨by simp, rfl, h.symm⟩

theorem allSet_tableOf {under : Option Setting} (h : ∀ value, under = some value → value.IsSet) :
    Setting.AllSet (tableOf under) := by
  cases under with
  | none => trivial
  | some value =>
    cases value with
    | table entries => exact h _ rfl
    | _ => trivial

mutual

theorem isSet_of_laidOver {under : Option Setting} {value merged : Setting}
    (hUnder : ∀ u, under = some u → u.IsSet) (h : laidOver under value = some merged) :
    merged.IsSet := by
  rcases laidOver_eq_some h with ⟨entries, rfl, rfl⟩ | ⟨hSet, hTable, rfl⟩
  · exact allSet_merge (allSet_tableOf hUnder) entries
  · cases merged with
    | unset => exact hSet rfl
    | table => cases hTable
    | _ => trivial
termination_by (sizeOf value, 0)

theorem allSet_merge {base : Fragment} (hBase : Setting.AllSet base) (overlay : Fragment) :
    Setting.AllSet (merge base overlay) := by
  refine Setting.allSet_iff.mpr (forall_mem_merge (P := fun _ v => v.IsSet)
    (Setting.allSet_iff.mp hBase) ?_)
  intro key value merged hMem hMerged
  have hSmaller := List.sizeOf_lt_of_mem hMem
  refine isSet_of_laidOver ?_ hMerged
  intro u hu
  exact Setting.allSet_iff.mp hBase _ (Keyed.mem_of_get? hu)
termination_by (sizeOf overlay, 1)
decreasing_by
  -- The value of an entry is smaller than the overlay that holds the entry.
  simp only [Prod.mk.sizeOf_spec] at hSmaller
  exact Prod.Lex.left _ _ (by omega)

end

theorem allSet_mergeAll (layers : List Fragment) : Setting.AllSet (mergeAll layers) := by
  induction layers using List.reverseRecOn with
  | nil => exact trivial
  | append_singleton layers top ih =>
    rw [mergeAll_append]
    exact allSet_merge ih top

/-- What stands at a path is what the last fragment that affects the path makes of it, and nothing
unset is left at any depth. -/
theorem mergeAll_decided_by_last (layers : List Fragment) (key : String) (rest : List String) :
    (∀ standing, stands (mergeAll layers) (key :: rest) = standing ↔
      LastEffect layers (key :: rest) standing) ∧
    Setting.AllSet (mergeAll layers) :=
  ⟨stands_mergeAll_iff layers (key :: rest), allSet_mergeAll layers⟩

end Household.Fragment
