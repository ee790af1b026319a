import Household.Setting.Schema

/-! # Where complaints lead

A complaint about a fragment names keys. Followed from table to table they lead to a value and to the
shape that is expected there, and it is that value which does not fit. The empty key is never named:
what is wrong with an entry of that key in a table of words is held against the table.
-/

set_option autoImplicit false

namespace Household

variable {fields : List (String × Shape)} {shape inner : Shape} {key : String} {value : Setting}
  {rest path : List String} {misfit : Misfit}

theorem exists_of_checkAll_eq_error {check : String → Setting → Except Complaint Unit}
    {entries : List (String × Setting)} {c : Complaint} (h : checkAll check entries = .error c) :
    ∃ entry ∈ entries, check entry.1 entry.2 = .error c := by
  induction entries with
  | nil => cases h
  | cons entry later ih =>
    rw [checkAll] at h
    split at h
    · obtain ⟨entry', hMem, hCheck⟩ := ih h
      exact ⟨entry', List.mem_cons_of_mem _ hMem, hCheck⟩
    · rename_i c' hCheck
      cases h
      exact ⟨entry, List.mem_cons_self, hCheck⟩

namespace Shape

/-- The shape expected under a key of a table that has the given shape. -/
def inner? : Shape → String → Option Shape
  | .words, _ => some .text
  | .table fields, key => Keyed.get? fields key
  | _, _ => none

mutual

/-- No field has the empty name, at any depth. -/
def Named : Shape → Prop
  | .table fields => AllNamed fields
  | _ => True

def AllNamed : List (String × Shape) → Prop
  | [] => True
  | (name, shape) :: rest => name ≠ "" ∧ shape.Named ∧ AllNamed rest

end

theorem AllNamed.of_get? (h : AllNamed fields) (hKey : Keyed.get? fields key = some inner) :
    key ≠ "" ∧ inner.Named := by
  induction fields with
  | nil => cases hKey
  | cons field later ih =>
    obtain ⟨name, first⟩ := field
    obtain ⟨hName, hFirst, hLater⟩ := h
    rw [Keyed.get?] at hKey
    split at hKey
    · rename_i hSame
      cases hKey
      exact ⟨hSame ▸ hName, hFirst⟩
    · exact ih hLater hKey

theorem Named.of_inner? (h : shape.Named) (hKey : shape.inner? key = some inner) :
    inner.Named ∧ (key = "" → shape = .words) := by
  cases shape with
  | words =>
    cases hKey
    exact ⟨trivial, fun _ => rfl⟩
  | table fields =>
    obtain ⟨hName, hInner⟩ := AllNamed.of_get? h hKey
    exact ⟨hInner, fun hEmpty => absurd hEmpty hName⟩
  | flag | positive | text | list | oneOf => cases hKey

theorem named_knownSettings : Named (.table knownSettings) := by
  simp only [Named, AllNamed, knownSettings, memoryFields, permissionFields, and_true, true_and]
  decide

/-! ## Complaints about a table -/

theorem exists_of_checkField_eq_error {c : Complaint} (h : checkField fields key value = .error c) :
    ∃ inner deeper, Keyed.get? fields key = some inner ∧ inner.check value = .error deeper ∧
      c = deeper.under key := by
  induction fields with
  | nil => cases h
  | cons field later ih =>
    obtain ⟨name, first⟩ := field
    rw [checkField] at h
    rw [Keyed.get?]
    split at h
    · rename_i hName
      rw [if_pos hName]
      split at h
      · cases h
      · rename_i deeper hCheck
        cases h
        exact ⟨first, deeper, rfl, hCheck, rfl⟩
    · rename_i hName
      rw [if_neg hName]
      exact ih h

theorem check_text_of_checkWord {c : Complaint} (h : checkWord key value = .error c) :
    c.path = [key] ∧ check .text value = .error ⟨[], c.misfit⟩ := by
  cases value with
  | str | unset => cases h
  | bool | int | float | list | table =>
    cases h
    exact ⟨rfl, by simp only [check]⟩

theorem path_of_check_text {c : Complaint} (h : check .text value = .error c) : c.path = [] := by
  cases value with
  | str | unset =>
    simp only [check] at h
    cases h
  | bool | int | float | list | table =>
    simp only [check] at h
    cases h
    rfl

/-- A complaint with a key is about the entry of that key. -/
theorem exists_of_check_eq_error_cons (h : shape.check value = .error ⟨key :: rest, misfit⟩) :
    ∃ entries inner v, value = .table entries ∧ (key, v) ∈ entries ∧
      shape.inner? key = some inner ∧ inner.check v = .error ⟨rest, misfit⟩ := by
  cases shape with
  | flag | text | list => cases value <;> simp [check] at h
  | oneOf names =>
    cases value with
    | str s =>
      simp only [check] at h
      split at h <;> cases h
    | _ => simp [check] at h
  | positive =>
    cases value with
    | unset => simp [check] at h
    | _ =>
      simp only [check] at h
      split at h
      · split at h <;> cases h
      · cases h
  | words =>
    cases value with
    | table entries =>
      simp only [check] at h
      obtain ⟨⟨name, v⟩, hMem, hWord⟩ := exists_of_checkAll_eq_error h
      obtain ⟨hPath, hText⟩ := check_text_of_checkWord hWord
      cases hPath
      exact ⟨entries, .text, v, rfl, hMem, rfl, hText⟩
    | _ => simp [check] at h
  | table fields =>
    cases value with
    | table entries =>
      simp only [check] at h
      obtain ⟨⟨name, v⟩, hMem, hField⟩ := exists_of_checkAll_eq_error h
      obtain ⟨inner, deeper, hInner, hCheck, hUnder⟩ := exists_of_checkField_eq_error hField
      cases hUnder
      exact ⟨entries, inner, v, rfl, hMem, hInner, hCheck⟩
    | _ => simp [check] at h

/-- The value does not fit as such, its entries under other than the empty key apart. -/
def Refuses (shape : Shape) (value : Setting) (misfit : Misfit) : Prop :=
  ∃ deeper, shape.check value = .error ⟨deeper, misfit⟩ ∧ ∀ key ∈ deeper, key = ""

end Shape

namespace Fragment

variable {f : Fragment}

/-- The keys lead to the value, where the shape is expected. -/
inductive Expects (f : Fragment) : List String → Shape → Setting → Prop where
  | top : Expects f [] (.table knownSettings) (.table f)
  | entry {path : List String} {shape inner : Shape} {entries : List (String × Setting)}
      {key : String} {value : Setting} (hTable : Expects f path shape (.table entries))
      (hMem : (key, value) ∈ entries) (hInner : shape.inner? key = some inner) :
      Expects f (path ++ [key]) inner value

-- By induction on the keys of the complaint, each of which leads one table further down.
theorem Expects.exists_refuses (h : f.Expects path shape value) (hNamed : shape.Named)
    (hCheck : shape.check value = .error ⟨rest, misfit⟩) :
    ∃ shape' value', f.Expects (path ++ rest.filter (· ≠ "")) shape' value' ∧
      shape'.Refuses value' misfit := by
  induction rest generalizing path shape value with
  | nil =>
    rw [List.filter_nil, List.append_nil]
    exact ⟨shape, value, h, [], hCheck, fun _ hMem => nomatch hMem⟩
  | cons key rest ih =>
    obtain ⟨entries, inner, v, rfl, hMem, hInner, hEntry⟩ :=
      Shape.exists_of_check_eq_error_cons hCheck
    obtain ⟨hInnerNamed, hWords⟩ := hNamed.of_inner? hInner
    by_cases hKey : key = ""
    · -- Only a table of words has an entry of that key, and below it there is no further key.
      obtain rfl := hWords hKey
      cases hInner
      obtain rfl : rest = [] := Shape.path_of_check_text hEntry
      subst hKey
      rw [List.filter_cons_of_neg (by simp), List.filter_nil, List.append_nil]
      exact ⟨.words, .table entries, h, [""], hCheck, by simp⟩
    · rw [List.filter_cons_of_pos (by simpa using hKey), List.append_cons]
      exact ih (h.entry hMem hInner) hInnerNamed hEntry

/-- The keys name a value of the fragment that is refused. -/
def Offends (f : Fragment) (path : List String) (misfit : Misfit) : Prop :=
  path ≠ [] ∧ ∃ shape value, f.Expects path shape value ∧ shape.Refuses value misfit

theorem offends_of_check {c : Complaint} (h : f.check = .error c) :
    f.Offends (c.path.filter (· ≠ "")) c.misfit := by
  have hTop : Shape.check (.table knownSettings) (.table f) = .error ⟨c.path, c.misfit⟩ := by
    simp only [Shape.check]
    exact h
  refine ⟨?_, by simpa using Expects.top.exists_refuses Shape.named_knownSettings hTop⟩
  obtain ⟨⟨key, value⟩, -, hField⟩ := exists_of_checkAll_eq_error h
  obtain ⟨inner, deeper, hInner, -, rfl⟩ := Shape.exists_of_checkField_eq_error hField
  have hKey := (Shape.AllNamed.of_get? Shape.named_knownSettings hInner).1
  rw [Complaint.under, List.filter_cons_of_pos (by simpa using hKey)]
  exact List.cons_ne_nil _ _

end Fragment

end Household
