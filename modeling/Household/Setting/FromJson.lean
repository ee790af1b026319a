import Household.Json.Printer
import Household.Setting.Fragment

/-! # Settings and JSON

Every JSON value is a setting, except that a list may hold strings only. Null and the unset marker
are both read as the unset value, and whole numbers beyond 64 bits with a sign as fractions.
-/

set_option autoImplicit false

namespace Household

structure ListFault where
  path : List String
  found : Json

def ListFault.under (key : String) (f : ListFault) : ListFault := ⟨key :: f.path, f.found⟩

def ListFault.message (f : ListFault) : String :=
  String.join (f.path.map (· ++ ": ")) ++ "lists may only contain strings, found " ++
    f.found.compact

namespace Setting

def listOfJson (items : List Json) : Except ListFault (List String) :=
  items.mapM fun item =>
    match item with
    | .str s => .ok s
    | other => .error ⟨[], other⟩

mutual

def ofJson : Json → Except ListFault Setting
  | .null => .ok .unset
  | .bool b => .ok (.bool b)
  | .int n => .ok (if n ≤ largestInt then .int n else .float (Decimal.ofInt n))
  | .float x => .ok (if Decimal.isFinite x then .float x else .unset)
  | .str s => .ok (if s = unsetMarker then .unset else .str s)
  | .arr items => (listOfJson items).map .list
  | .obj fields => (entriesOfJson fields).map .table

/-- The entries in order; the first fault is reported under its key. -/
def entriesOfJson : List (String × Json) → Except ListFault (List (String × Setting))
  | [] => .ok []
  | (key, j) :: rest =>
    match ofJson j with
    | .error fault => .error (fault.under key)
    | .ok value => (entriesOfJson rest).map ((key, value) :: ·)

end

mutual

def toJson : Setting → Json
  | .bool b => .bool b
  | .int n => .int n
  | .float x => if Decimal.isFinite x then .float x else .null
  | .str s => .str s
  | .list items => Json.ofStrings items
  | .table entries => .obj (entriesToJson entries)
  | .unset => .null

def entriesToJson : List (String × Setting) → List (String × Json)
  | [] => []
  | (key, value) :: rest => (key, toJson value) :: entriesToJson rest

end

end Setting

inductive FragmentFault where
  | notATable
  | badSetting (fault : ListFault)

namespace Fragment

/-- The settings of an object in order. At the top a fault is not reported under its key. -/
def ofFields : List (String × Json) → Except ListFault Fragment
  | [] => .ok []
  | (key, j) :: rest =>
    match Setting.ofJson j with
    | .error fault => .error fault
    | .ok value => (ofFields rest).map ((key, value) :: ·)

def ofJson : Json → Except FragmentFault Fragment
  | .obj fields =>
    match ofFields fields with
    | .ok f => .ok f
    | .error fault => .error (.badSetting fault)
  | _ => .error .notATable

def toJson (f : Fragment) : Json := .obj (Setting.entriesToJson f)

end Fragment

end Household
