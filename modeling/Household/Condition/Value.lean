import Household.Condition.Expr
import Household.Data.NameSet
import Household.Json.Printer
import Household.Text.Split

/-! # Values of conditions

What the parts of a condition evaluate to, and how values compare across their kinds.
-/

set_option autoImplicit false

namespace Household.Condition

open Household.Text

inductive Value where
  | null
  | bool (b : Bool)
  | num (x : Float)
  | str (s : String)
  | set (items : List String)
  deriving DecidableEq

namespace Value

def kind : Value → String
  | null => "null"
  | bool _ => "boolean"
  | num _ => "number"
  | str _ => "string"
  | set _ => "set"

def isNull : Value → Bool
  | null => true
  | _ => false

def sameWord (s t : String) : Bool := sameLetters s.toList t.toList

def truthy : Value → Bool
  | null => false
  | bool b => b
  | num x => !(x == 0)
  | str s =>
    let word := String.ofList (trim s.toList)
    !word.isEmpty && !sameWord word "off" && !sameWord word "false"
  | set items => !items.isEmpty

def number? : Value → Option Float
  | num x => some x
  | str s => Decimal.read? (trim s.toList)
  | _ => none

def text? : Value → Option String
  | str s => some s
  | num x => some (Decimal.write .plain x)
  | bool b => some (if b then "true" else "false")
  | _ => none

def itemText : Json → String
  | .str s => s
  | j => j.compact

/-- Objects are compared by their text. -/
def ofJson : Json → Value
  | .null => null
  | .bool b => bool b
  | .int n => num (Decimal.ofInt n)
  | .float x => num x
  | .str s => str s
  | .arr items => set (items.map itemText)
  | .obj fields => str (Json.obj fields).compact

def epsilon : Float := Float.ofBits 0x3cb0000000000000

def nearlyEqual (x y : Float) : Bool := (x - y).abs < epsilon

def namesBool (s : String) (b : Bool) : Bool :=
  sameWord (String.ofList (trim s.toList)) (if b then "true" else "false")

/-- Equality across kinds: strings up to ASCII case, sets by their members, and everything else as
numbers. Null equals null alone. -/
def looselyEqual : Value → Value → Bool
  | null, null => true
  | null, _ | _, null => false
  | bool a, bool b => a == b
  | bool b, str s | str s, bool b => namesBool s b
  | str a, str b => sameWord a b
  | set a, set b => NameSet.ofList a == NameSet.ofList b
  | a, b =>
    match a.number?, b.number? with
    | some x, some y => nearlyEqual x y
    | _, _ => false

def ordered (op : Comparison) (x y : Float) : Bool :=
  match op with
  | .lt => x < y
  | .lte => x ≤ y
  | .gt => y < x
  | .gte => y ≤ x
  | .eq | .notEq => false

/-- Null is neither before nor after anything; other values are ordered as numbers. -/
def compare (a : Value) (op : Comparison) (b : Value) : Except Fault Bool :=
  match op with
  | .eq => .ok (looselyEqual a b)
  | .notEq => .ok (!looselyEqual a b)
  | _ =>
    if a.isNull || b.isNull then .ok false
    else
      match a.number?, b.number? with
      | some x, some y => .ok (ordered op x y)
      | _, _ => .error (.kindMismatch (.order a.kind b.kind))

/-- Whether `needle` is a member of a set, or occurs in a string whatever the case. -/
def contains (haystack needle : Value) : Except Fault Bool :=
  match needle.text? with
  | none => if needle.isNull then .ok false else .error (.kindMismatch (.member needle.kind))
  | some text =>
    match haystack with
    | null => .ok false
    | set items => .ok (items.contains text)
    | str s => .ok (occursIn (lowercase text.toList) (lowercase s.toList))
    | other => .error (.kindMismatch (.memberOf other.kind))

end Value

end Household.Condition
