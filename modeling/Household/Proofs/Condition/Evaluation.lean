import Household.Condition.Eval

/-! # What a condition reads

Of the named states a condition reads those that it asks for by name. Two scenes that agree on
these, on the clock and on the occupants are therefore the same to it, faults included.
-/

set_option autoImplicit false

namespace Household.Condition

def Expr.stateKeys : Expr → List String
  | call (.state key) => [key]
  | not e => e.stateKeys
  | and a b | or a b | compare a _ b | within a b _ => a.stateKeys ++ b.stateKeys
  | _ => []

/-- A condition that cannot be read asks for nothing. -/
def Compiled.stateKeys (c : Compiled) : List String :=
  match c.parsed with
  | .ok e => e.stateKeys
  | .error _ => []

/-- The scenes differ at most in states that are not among the keys. -/
structure Scene.Agree (keys : List String) (s s' : Scene) : Prop where
  hour : s.hour = s'.hour
  minute : s.minute = s'.minute
  weekday : s.weekday = s'.weekday
  occupants : s.occupants = s'.occupants
  state : ∀ key ∈ keys, Keyed.get? s.state key = Keyed.get? s'.state key

variable {s s' : Scene}

theorem Scene.Agree.left {keys keys' : List String} (h : Agree (keys ++ keys') s s') :
    Agree keys s s' :=
  { h with state := fun key hKey => h.state key (List.mem_append_left _ hKey) }

theorem Scene.Agree.right {keys keys' : List String} (h : Agree (keys ++ keys') s s') :
    Agree keys' s s' :=
  { h with state := fun key hKey => h.state key (List.mem_append_right _ hKey) }

theorem Variable.value_congr {keys : List String} (h : s.Agree keys s') (v : Variable) :
    v.value s = v.value s' := by
  cases v with
  | hour => rw [value, value, h.hour]
  | minute => rw [value, value, h.minute]
  | weekday => rw [value, value, h.weekday]

theorem Call.value_congr {c : Call} (h : s.Agree (Expr.call c).stateKeys s') :
    c.value s = c.value s' := by
  cases c with
  | isWeekday => rw [value, value, h.weekday]
  | isWeekend => rw [value, value, h.weekday]
  | isDaytime => rw [value, value, h.hour]
  | isWorkHours => rw [value, value, h.hour]
  | occupants => rw [value, value, h.occupants]
  | state key => rw [value, value, h.state key List.mem_cons_self]

/-- As a condition and as an operand a tree comes out alike in scenes that agree on what it asks
for. -/
theorem Expr.holds_and_value_congr {e : Expr} (h : s.Agree e.stateKeys s') :
    e.holds s = e.holds s' ∧ e.value s = e.value s' := by
  induction e with
  | bool b => simp only [holds, value, and_self]
  | num x => simp only [holds, value, and_self]
  | str text => simp only [holds, value, and_self]
  | var v => simp only [holds, value, v.value_congr h, and_self]
  | call c => simp only [holds, value, Call.value_congr h, and_self]
  | not e ih => simp only [holds, value, ih h, and_self]
  | and a b iha ihb => simp only [holds, value, iha h.left, ihb h.right, and_self]
  | or a b iha ihb => simp only [holds, value, iha h.left, ihb h.right, and_self]
  | compare a op b iha ihb => simp only [holds, value, iha h.left, ihb h.right, and_self]
  | within a b negated iha ihb => simp only [holds, value, iha h.left, ihb h.right, and_self]

theorem Compiled.holds_congr {c : Compiled} (h : s.Agree c.stateKeys s') :
    c.holds s = c.holds s' := by
  rw [stateKeys] at h
  rw [holds, holds]
  cases hParsed : c.parsed with
  | error fault => rfl
  | ok e =>
    rw [hParsed] at h
    exact (Expr.holds_and_value_congr h).1

end Household.Condition
