import Household.Layer.Document
import Household.Proofs.Data.Outcome
import Household.Proofs.Decimal.Finite
import Household.Proofs.Setting.Ordering

/-! # Settings read from JSON and written back

A value is refused exactly for a list, at the end of a way through objects, that holds something
other than a string. What is read and written back is the value in canonical form: the marker for
unset values is null, and a whole number too large for a setting is a fraction. A setting comes back
from its JSON form unless it holds what no JSON value is read as. The tables of a document are read
in the order of their keys.
-/

set_option autoImplicit false

namespace Household

open Household.Setting

namespace Json

/-- A value that is found in another on a way through objects. -/
inductive Reaches (target : Json) : Json → Prop where
  | here : Reaches target target
  | inside {fields : List (String × Json)} {name : String} {j : Json} (hMem : (name, j) ∈ fields)
      (h : Reaches target j) : Reaches target (.obj fields)

/-- Some list within reach holds something other than a string. -/
def HoldsMixedList (j : Json) : Prop :=
  ∃ items, Reaches (.arr items) j ∧ ∃ item ∈ items, item.str? = none

mutual

/-- Outside lists, whole numbers have 64 bits with or without a sign, and fractions are finite. -/
def IsProper : Json → Prop
  | .int n => smallestInt ≤ n ∧ n < 2 * Decimal.two63
  | .float x => Decimal.isFinite x = true
  | .obj fields => AllProper fields
  | _ => True

def AllProper : List (String × Json) → Prop
  | [] => True
  | (_, j) :: rest => IsProper j ∧ AllProper rest

end

mutual

/-- The value as a setting gives it back. -/
def canonical : Json → Json
  | .str s => if s = unsetMarker then .null else .str s
  | .int n => if n ≤ largestInt then .int n else .float (Decimal.ofInt n)
  | .obj fields => .obj (canonicalFields fields)
  | j => j

def canonicalFields : List (String × Json) → List (String × Json)
  | [] => []
  | (name, j) :: rest => (name, canonical j) :: canonicalFields rest

end

theorem holdsMixedList_arr_iff {items : List Json} :
    HoldsMixedList (.arr items) ↔ ∃ item ∈ items, item.str? = none := by
  constructor
  · rintro ⟨found, hReaches, hMixed⟩
    cases hReaches
    exact hMixed
  · intro hMixed
    exact ⟨items, .here, hMixed⟩

theorem holdsMixedList_obj_iff {fields : List (String × Json)} :
    HoldsMixedList (.obj fields) ↔ ∃ field ∈ fields, HoldsMixedList field.2 := by
  constructor
  · rintro ⟨items, hReaches, hMixed⟩
    cases hReaches with
    | inside hMem h => exact ⟨_, hMem, items, h, hMixed⟩
  · rintro ⟨field, hMem, items, h, hMixed⟩
    exact ⟨items, .inside hMem h, hMixed⟩

theorem not_holdsMixedList {j : Json} (hArr : j.items? = none) (hObj : j.fields? = none) :
    ¬HoldsMixedList j := by
  rintro ⟨items, hReaches, -⟩
  cases hReaches with
  | here => cases hArr
  | inside => cases hObj

end Json

namespace Setting

mutual

/-- Neither the value nor anything inside it is what a JSON value is not read as. -/
def IsPlain : Setting → Prop
  | .int n => n ≤ largestInt
  | .float x => Decimal.isFinite x = true
  | .str s => s ≠ unsetMarker
  | .table entries => AllPlain entries
  | _ => True

def AllPlain : List (String × Setting) → Prop
  | [] => True
  | (_, value) :: rest => IsPlain value ∧ AllPlain rest

end

/-! ## What is refused -/

theorem listOfJson_cons_str (s : String) (rest : List Json) :
    listOfJson (.str s :: rest) = (listOfJson rest).map (s :: ·) := by
  rw [listOfJson, listOfJson, List.mapM_cons]
  rfl

theorem listOfJson_cons_of_not_str {item : Json} (h : item.str? = none) (rest : List Json) :
    listOfJson (item :: rest) = .error ⟨[], item⟩ := by
  rw [listOfJson, List.mapM_cons]
  cases item with
  | str s => cases h
  | _ => rfl

theorem exists_listOfJson_eq_error_iff {items : List Json} :
    (∃ fault, listOfJson items = .error fault) ↔ ∃ item ∈ items, item.str? = none := by
  induction items with
  | nil => simp [listOfJson, pure, Except.pure]
  | cons item rest ih =>
    rw [List.exists_mem_cons_iff, ← ih]
    cases hStr : item.str? with
    | none => simp [listOfJson_cons_of_not_str hStr]
    | some s =>
      obtain rfl : item = .str s := by cases item <;> simp_all [Json.str?]
      simp only [listOfJson_cons_str, map_eq_error_iff, Option.some_ne_none, false_or]

theorem listOfJson_eq_ok {items : List Json} {names : List String}
    (h : listOfJson items = .ok names) : items = names.map .str := by
  induction items generalizing names with
  | nil =>
    cases h
    rfl
  | cons item rest ih =>
    cases hStr : item.str? with
    | none =>
      rw [listOfJson_cons_of_not_str hStr] at h
      cases h
    | some s =>
      obtain rfl : item = .str s := by cases item <;> simp_all [Json.str?]
      rw [listOfJson_cons_str] at h
      obtain ⟨later, hLater, rfl⟩ := map_eq_ok_iff.mp h
      rw [List.map_cons, ← ih hLater]

theorem listOfJson_map_str (names : List String) : listOfJson (names.map .str) = .ok names := by
  induction names with
  | nil => rfl
  | cons s rest ih =>
    rw [List.map_cons, listOfJson_cons_str, ih]
    rfl

mutual

theorem exists_ofJson_eq_error_iff (j : Json) :
    (∃ fault, ofJson j = .error fault) ↔ j.HoldsMixedList := by
  cases j with
  | arr items =>
    simp only [ofJson, map_eq_error_iff]
    rw [exists_listOfJson_eq_error_iff, Json.holdsMixedList_arr_iff]
  | obj fields =>
    simp only [ofJson, map_eq_error_iff]
    rw [exists_entriesOfJson_eq_error_iff fields, Json.holdsMixedList_obj_iff]
  | _ =>
    simp only [ofJson, reduceCtorEq, exists_false, false_iff]
    exact Json.not_holdsMixedList rfl rfl

theorem exists_entriesOfJson_eq_error_iff (fields : List (String × Json)) :
    (∃ fault, entriesOfJson fields = .error fault) ↔
      ∃ field ∈ fields, field.2.HoldsMixedList := by
  cases fields with
  | nil => simp [entriesOfJson]
  | cons field rest =>
    obtain ⟨name, j⟩ := field
    have hFirst := exists_ofJson_eq_error_iff j
    have hRest := exists_entriesOfJson_eq_error_iff rest
    rw [List.exists_mem_cons_iff, ← hFirst, ← hRest, entriesOfJson]
    cases hRead : ofJson j with
    | error fault => simp
    | ok value => simp [map_eq_error_iff]

end

/-! ## What is read is plain, and is written back in canonical form -/

theorem isFinite_ofInt_of_proper {n : Int} (h : Json.IsProper (.int n)) :
    Decimal.isFinite (Decimal.ofInt n) = true := by
  obtain ⟨hLow, hHigh⟩ := h
  apply Decimal.isFinite_ofInt
  by_cases hZero : n.natAbs = 0
  · rw [hZero]
    decide
  · have hSize : n.natAbs < 2 ^ 64 := by
      simp only [smallestInt, Decimal.two63] at hLow hHigh
      omega
    have hLog : n.natAbs.log2 < 64 := (Nat.log2_lt hZero).mpr hSize
    omega

mutual

theorem isPlain_and_toJson_of_ofJson {j : Json} {v : Setting} (hProper : j.IsProper)
    (h : ofJson j = .ok v) : v.IsPlain ∧ toJson v = j.canonical := by
  cases j with
  | null =>
    cases h
    exact ⟨trivial, rfl⟩
  | bool b =>
    cases h
    exact ⟨trivial, rfl⟩
  | int n =>
    have hFinite := isFinite_ofInt_of_proper hProper
    simp only [ofJson, Except.ok.injEq] at h
    rw [← h, Json.canonical]
    by_cases hSmall : n ≤ largestInt
    · rw [if_pos hSmall, if_pos hSmall]
      exact ⟨hSmall, rfl⟩
    · rw [if_neg hSmall, if_neg hSmall, toJson, if_pos hFinite]
      exact ⟨hFinite, rfl⟩
  | float x =>
    have hFinite : Decimal.isFinite x = true := hProper
    simp only [ofJson, Except.ok.injEq, if_pos hFinite] at h
    rw [← h, toJson, if_pos hFinite]
    exact ⟨hFinite, rfl⟩
  | str s =>
    simp only [ofJson, Except.ok.injEq] at h
    rw [← h, Json.canonical]
    by_cases hMarker : s = unsetMarker
    · rw [if_pos hMarker, if_pos hMarker]
      exact ⟨trivial, rfl⟩
    · rw [if_neg hMarker, if_neg hMarker]
      exact ⟨hMarker, rfl⟩
  | arr items =>
    obtain ⟨names, hNames, rfl⟩ := map_eq_ok_iff.mp h
    rw [listOfJson_eq_ok hNames]
    exact ⟨trivial, rfl⟩
  | obj fields =>
    obtain ⟨entries, hEntries, rfl⟩ := map_eq_ok_iff.mp h
    obtain ⟨hPlain, hBack⟩ := allPlain_and_entriesToJson_of_entriesOfJson hProper hEntries
    refine ⟨hPlain, ?_⟩
    rw [toJson, hBack, Json.canonical]

theorem allPlain_and_entriesToJson_of_entriesOfJson {fields : List (String × Json)}
    {entries : List (String × Setting)} (hProper : Json.AllProper fields)
    (h : entriesOfJson fields = .ok entries) :
    AllPlain entries ∧ entriesToJson entries = Json.canonicalFields fields := by
  cases fields with
  | nil =>
    cases h
    exact ⟨trivial, rfl⟩
  | cons field rest =>
    obtain ⟨name, j⟩ := field
    rw [entriesOfJson] at h
    cases hRead : ofJson j with
    | error fault => simp [hRead] at h
    | ok value =>
      simp only [hRead] at h
      obtain ⟨later, hLater, rfl⟩ := map_eq_ok_iff.mp h
      obtain ⟨hPlain, hBack⟩ := isPlain_and_toJson_of_ofJson hProper.1 hRead
      obtain ⟨hPlainRest, hBackRest⟩ :=
        allPlain_and_entriesToJson_of_entriesOfJson hProper.2 hLater
      refine ⟨⟨hPlain, hPlainRest⟩, ?_⟩
      rw [entriesToJson, hBack, hBackRest, Json.canonicalFields]

end

mutual

theorem ofJson_toJson_eq_ok_iff (v : Setting) : ofJson (toJson v) = .ok v ↔ v.IsPlain := by
  cases v with
  | int n =>
    by_cases hSmall : n ≤ largestInt
    · simp [toJson, ofJson, IsPlain, hSmall]
    · simp [toJson, ofJson, IsPlain, hSmall]
  | float x =>
    by_cases hFinite : Decimal.isFinite x = true
    · simp [toJson, ofJson, IsPlain, hFinite]
    · simp [toJson, ofJson, IsPlain, hFinite]
  | str s =>
    by_cases hMarker : s = unsetMarker
    · simp [toJson, ofJson, IsPlain, hMarker]
    · simp [toJson, ofJson, IsPlain, hMarker]
  | list items => simp [toJson, Json.ofStrings, ofJson, IsPlain, listOfJson_map_str, Except.map]
  | table entries =>
    rw [toJson, ofJson, map_eq_ok_iff, IsPlain, ← entriesOfJson_entriesToJson_eq_ok_iff entries]
    simp
  | _ => simp [toJson, ofJson, IsPlain]

theorem entriesOfJson_entriesToJson_eq_ok_iff (entries : List (String × Setting)) :
    entriesOfJson (entriesToJson entries) = .ok entries ↔ AllPlain entries := by
  cases entries with
  | nil => simp [entriesToJson, entriesOfJson, AllPlain]
  | cons entry rest =>
    obtain ⟨key, value⟩ := entry
    have hFirst := ofJson_toJson_eq_ok_iff value
    have hRest := entriesOfJson_entriesToJson_eq_ok_iff rest
    rw [AllPlain, ← hFirst, ← hRest, entriesToJson, entriesOfJson]
    cases hRead : ofJson (toJson value) with
    | error fault => simp
    | ok back =>
      simp only [map_eq_ok_iff, Except.ok.injEq, List.cons.injEq, Prod.mk.injEq, true_and]
      constructor
      · rintro ⟨later, hLater, hBack, rfl⟩
        exact ⟨hBack, hLater⟩
      · rintro ⟨hBack, hLater⟩
        exact ⟨rest, hLater, hBack, rfl⟩

end

/-! ## Tables are read in order -/

theorem exists_mem_of_entriesOfJson {fields : List (String × Json)}
    {entries : List (String × Setting)} (h : entriesOfJson fields = .ok entries) :
    entries.map Prod.fst = fields.map Prod.fst ∧
      ∀ entry ∈ entries, ∃ j, (entry.1, j) ∈ fields ∧ ofJson j = .ok entry.2 := by
  induction fields generalizing entries with
  | nil =>
    cases h
    simp
  | cons field rest ih =>
    obtain ⟨name, j⟩ := field
    rw [entriesOfJson] at h
    cases hRead : ofJson j with
    | error fault => simp [hRead] at h
    | ok value =>
      simp only [hRead] at h
      obtain ⟨later, hLater, rfl⟩ := map_eq_ok_iff.mp h
      obtain ⟨hKeys, hEntries⟩ := ih hLater
      refine ⟨by rw [List.map_cons, hKeys, List.map_cons], ?_⟩
      intro entry hEntry
      rcases List.mem_cons.mp hEntry with rfl | hEntry
      · exact ⟨j, List.mem_cons_self, hRead⟩
      · obtain ⟨j', hMem, hRead'⟩ := hEntries entry hEntry
        exact ⟨j', List.mem_cons_of_mem _ hMem, hRead'⟩

/-- What is read from a value whose members are in order is in order. -/
theorem isOrdered_of_ofJson_normal {j : Json} {v : Setting} (h : ofJson j.normal = .ok v) :
    v.IsOrdered := by
  cases j with
  | obj fields =>
    obtain ⟨entries, hEntries, rfl⟩ := map_eq_ok_iff.mp h
    obtain ⟨hKeys, hRead⟩ := exists_mem_of_entriesOfJson hEntries
    constructor
    · rw [Keyed.ordered_iff, hKeys, ← Keyed.ordered_iff]
      exact Keyed.ordered_ofList _
    · refine allOrdered_iff.mpr ?_
      intro entry hEntry
      obtain ⟨j', hMem, hValue⟩ := hRead entry hEntry
      have hNormal := Keyed.mem_of_mem_ofList hMem
      rw [Json.normalFields_eq_map] at hNormal
      obtain ⟨⟨name, inner⟩, hField, hSame⟩ := List.mem_map.mp hNormal
      have hInner : inner.normal = j' := (Prod.mk.inj hSame).2
      rw [← hInner] at hValue
      have hSmaller : sizeOf inner < sizeOf (Json.obj fields) := by
        have hPair := List.sizeOf_lt_of_mem hField
        simp only [Prod.mk.sizeOf_spec] at hPair
        simp only [Json.obj.sizeOf_spec]
        omega
      exact isOrdered_of_ofJson_normal hValue
  | arr items =>
    obtain ⟨names, -, rfl⟩ := map_eq_ok_iff.mp h
    exact trivial
  | null | bool =>
    cases h
    exact trivial
  | int n | float x | str s =>
    simp only [Json.normal, ofJson, Except.ok.injEq] at h
    rw [← h]
    split <;> exact trivial
termination_by sizeOf j
decreasing_by
  subst_vars
  exact hSmaller

/-- The settings of a document are in order, at every depth. -/
theorem ordered_of_settings? {j : Json} {f : Fragment} (h : Document.settings? j = some f) :
    Fragment.Ordered f := by
  cases j with
  | obj fields =>
    rw [Document.settings?, Document.keyed?, Option.map_eq_some_iff] at h
    obtain ⟨entries, hEntries, rfl⟩ := h
    refine ⟨Keyed.ordered_ofList _, allOrdered_iff.mpr ?_⟩
    intro entry hEntry
    obtain ⟨field, -, hRead⟩ := exists_of_mem_mapM hEntries entry (Keyed.mem_of_mem_ofList hEntry)
    obtain ⟨value, hValue, rfl⟩ := Option.map_eq_some_iff.mp hRead
    cases hOf : ofJson field.2.normal with
    | error fault => simp [hOf, Except.toOption] at hValue
    | ok v =>
      have hSame : v = value := by simpa [hOf, Except.toOption] using hValue
      rw [← hSame]
      exact isOrdered_of_ofJson_normal hOf
  | _ => cases h

/-- What is refused, what a value becomes that is read and written back, and which settings come
back from their JSON form. -/
theorem json_round_trip :
    (∀ j, (∃ fault, ofJson j = .error fault) ↔ j.HoldsMixedList) ∧
      (∀ j v, j.IsProper → ofJson j = .ok v →
        toJson v = j.canonical ∧ ofJson j.canonical = .ok v) ∧
      ∀ v, ofJson (toJson v) = .ok v ↔ v.IsPlain := by
  refine ⟨exists_ofJson_eq_error_iff, ?_, ofJson_toJson_eq_ok_iff⟩
  intro j v hProper hRead
  obtain ⟨hPlain, hBack⟩ := isPlain_and_toJson_of_ofJson hProper hRead
  refine ⟨hBack, ?_⟩
  rw [← hBack]
  exact (ofJson_toJson_eq_ok_iff v).mpr hPlain

/-- Null, the marker inside and outside a list, and the largest whole number without a sign. -/
theorem json_round_trip_marked :
    let j : Json := .obj [("big", .int (2 * Decimal.two63 - 1)), ("gone", .null),
      ("list", .arr [.str "@unset"]), ("mark", .str "@unset")]
    let v : Setting := .table [("big", .float (Decimal.ofInt (2 * Decimal.two63 - 1))),
      ("gone", .unset), ("list", .list ["@unset"]), ("mark", .unset)]
    j.IsProper ∧ ofJson j = .ok v ∧ toJson v = j.canonical ∧ ofJson j.canonical = .ok v := by
  intro j v
  have hProper : j.IsProper := by
    simp only [j, Json.IsProper, Json.AllProper, smallestInt]
    decide
  have hRead : ofJson j = .ok v := rfl
  exact ⟨hProper, hRead, json_round_trip.2.1 j v hProper hRead⟩

end Setting

end Household
