import Household.Data.Keyed

/-! # JSON values

Whole numbers keep their exact value; every other number is a binary64 number. A freshly read
object lists its members as written, and `Json.normal` puts it in order.
-/

set_option autoImplicit false

namespace Household

inductive Json where
  | null
  | bool (b : Bool)
  | int (n : Int)
  | float (x : Float)
  | str (s : String)
  | arr (items : List Json)
  | obj (fields : List (String × Json))

namespace Json

mutual

/-- Members sorted by name, the last of several members of one name kept, at every depth. -/
def normal : Json → Json
  | .arr items => .arr (normalItems items)
  | .obj fields => .obj (Keyed.ofList (normalFields fields))
  | j => j

def normalItems : List Json → List Json
  | [] => []
  | j :: rest => normal j :: normalItems rest

def normalFields : List (String × Json) → List (String × Json)
  | [] => []
  | (name, j) :: rest => (name, normal j) :: normalFields rest

end

mutual

/-- The number of levels of arrays and objects, leaves counting as one. -/
def depth : Json → Nat
  | .arr items => depthItems items + 1
  | .obj fields => depthFields fields + 1
  | _ => 1

def depthItems : List Json → Nat
  | [] => 0
  | j :: rest => max (depth j) (depthItems rest)

def depthFields : List (String × Json) → Nat
  | [] => 0
  | (_, j) :: rest => max (depth j) (depthFields rest)

end

def str? : Json → Option String
  | .str s => some s
  | _ => none

def bool? : Json → Option Bool
  | .bool b => some b
  | _ => none

def nat? : Json → Option Nat
  | .int n => if 0 ≤ n then some n.toNat else none
  | _ => none

def items? : Json → Option (List Json)
  | .arr items => some items
  | _ => none

def fields? : Json → Option (List (String × Json))
  | .obj fields => some fields
  | _ => none

def strings? (j : Json) : Option (List String) := do (← j.items?).mapM str?

def ofStrings (names : List String) : Json := .arr (names.map .str)

theorem normalFields_eq_map (fields : List (String × Json)) :
    normalFields fields = fields.map fun field => (field.1, normal field.2) := by
  induction fields with
  | nil => rfl
  | cons field rest ih => rw [normalFields, ih, List.map_cons]

end Json

end Household
