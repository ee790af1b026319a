import Household.Decimal.Written
import Household.Json.Basic
import Household.Text.Split

/-! # Settings

What a layer may say under a key. Tables nest; every other value is a leaf. An unset value says that
nothing shall stand under the key.
-/

set_option autoImplicit false

namespace Household

inductive Setting where
  | bool (b : Bool)
  | int (n : Int)
  | float (x : Float)
  | str (s : String)
  | list (items : List String)
  | table (entries : List (String × Setting))
  | unset

/-- Settings under their keys, in increasing order of the keys. -/
abbrev Fragment := List (String × Setting)

def unsetMarker : String := "@unset"

namespace Setting

def kind : Setting → String
  | .bool _ => "boolean"
  | .int _ => "integer"
  | .float _ => "number"
  | .str _ => "string"
  | .list _ => "list"
  | .table _ => "table"
  | .unset => "unset"

def bool? : Setting → Option Bool
  | .bool b => some b
  | _ => none

def str? : Setting → Option String
  | .str s => some s
  | _ => none

def largestInt : Int := Decimal.two63 - 1

def smallestInt : Int := -Decimal.two63

/-- A whole number; one written as a fraction is brought into the range of 64 bits. -/
def int? : Setting → Option Int
  | .int n => some n
  | .float x => (Decimal.whole? x).map fun n => max smallestInt (min largestInt n)
  | _ => none

def list? : Setting → Option (List String)
  | .list items => some items
  | _ => none

def table? : Setting → Option Fragment
  | .table entries => some entries
  | _ => none

def shown : Setting → String
  | .bool b => if b then "true" else "false"
  | .int n => toString n
  | .float x => Decimal.write .plain x
  | .str s => s
  | .list items => "[" ++ ", ".intercalate items ++ "]"
  | .table entries => "\x7b" ++ toString entries.length ++ " keys\x7d"
  | .unset => unsetMarker

end Setting

end Household
