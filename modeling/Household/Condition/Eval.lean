import Household.Clock.Weekday
import Household.Condition.Parser
import Household.Condition.Value
import Household.Data.Keyed

/-! # Evaluating conditions

A condition sees the clock, the named states and the occupants of one moment, and nothing else.
Connectives stop as soon as they are decided; a fault on the way is the outcome.
-/

set_option autoImplicit false

namespace Household.Condition

structure Scene where
  hour : Nat
  minute : Nat
  weekday : Weekday
  state : Keyed Json
  occupants : NameSet

def Variable.value (v : Variable) (s : Scene) : Value :=
  match v with
  | hour => .num (Decimal.ofNat s.hour)
  | minute => .num (Decimal.ofNat s.minute)
  | weekday => .str s.weekday.name

def isDaytime (hour : Nat) : Bool := 7 ≤ hour && hour < 19

def isWorkHours (hour : Nat) : Bool := 9 ≤ hour && hour < 17

def Call.value (c : Call) (s : Scene) : Value :=
  match c with
  | isWeekday => .bool (!s.weekday.isWeekend)
  | isWeekend => .bool s.weekday.isWeekend
  | isDaytime => .bool (Condition.isDaytime s.hour)
  | isWorkHours => .bool (Condition.isWorkHours s.hour)
  | occupants => .set s.occupants
  | state key =>
    match Keyed.get? s.state key with
    | some j => .ofJson j
    | none => .null

namespace Expr

mutual

def holds (s : Scene) : Expr → Except Fault Bool
  | and a b => do if ← holds s a then holds s b else return false
  | or a b => do if ← holds s a then return true else holds s b
  | not e => do return !(← holds s e)
  | compare a op b => do Value.compare (← value s a) op (← value s b)
  | within needle haystack negated => do
    let needle ← value s needle
    let haystack ← value s haystack
    return (← Value.contains haystack needle) != negated
  | bool b => .ok b
  | num x => .ok (Value.num x).truthy
  | str text => .ok (Value.str text).truthy
  | var v => .ok (v.value s).truthy
  | call c => .ok (c.value s).truthy

def value (s : Scene) : Expr → Except Fault Value
  | and a b => do if ← holds s a then return .bool (← holds s b) else return .bool false
  | or a b => do if ← holds s a then return .bool true else return .bool (← holds s b)
  | not e => do return .bool !(← holds s e)
  | compare a op b => do return .bool (← Value.compare (← value s a) op (← value s b))
  | within needle haystack negated => do
    let needle ← value s needle
    let haystack ← value s haystack
    return .bool ((← Value.contains haystack needle) != negated)
  | bool b => .ok (.bool b)
  | num x => .ok (.num x)
  | str text => .ok (.str text)
  | var v => .ok (v.value s)
  | call c => .ok (c.value s)

end

end Expr

/-- A condition as written and the tree it was read as. A condition that cannot be read stays in
its place, and its fault is the outcome of every evaluation. -/
structure Compiled where
  source : String
  parsed : Except Fault Expr

def compile (source : String) : Compiled := ⟨source, parse source⟩

namespace Compiled

def fault? (c : Compiled) : Option Fault :=
  match c.parsed with
  | .ok _ => none
  | .error fault => some fault

def holds (c : Compiled) (s : Scene) : Except Fault Bool :=
  match c.parsed with
  | .ok e => e.holds s
  | .error fault => .error fault

end Compiled

def evaluate (source : String) (s : Scene) : Except Fault Bool :=
  match parse source with
  | .ok e => e.holds s
  | .error fault => .error fault

end Household.Condition
