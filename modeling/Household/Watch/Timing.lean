import Household.Decimal.Reading
import Household.Json.Basic
import Household.Text.Space

/-! # Timing of a watch

How often a document is looked at, and how long a change has to last before it is taken over, in
milliseconds.
-/

set_option autoImplicit false

namespace Household

structure Timing where
  interval : Nat
  debounce : Nat
  deriving DecidableEq, Repr

namespace Timing

def usual : Timing := ⟨2000, 500⟩

/-- The time from one look to the next, which is never zero. -/
def step (t : Timing) : Nat := max 1 t.interval

def fieldNames : List String := ["poll_interval_ms", "debounce_ms"]

def field? (fields : Keyed Json) (key : String) (otherwise : Nat) : Option Nat :=
  match Keyed.get? fields key with
  | none => some otherwise
  | some j => j.nat?

def ofJson? (j : Json) : Option Timing := do
  let fields ← match j with
    | .obj fields => some fields
    | .arr items => if fieldNames.length < items.length then none else some (fieldNames.zip items)
    | _ => none
  some
    { interval := ← field? fields "poll_interval_ms" usual.interval
      debounce := ← field? fields "debounce_ms" usual.debounce }

def toJson (t : Timing) : Json :=
  .obj [("debounce_ms", .int t.debounce), ("poll_interval_ms", .int t.interval)]

/-- The number of milliseconds under a name; white space around it does not count. -/
def millis? (lookup : String → Option String) (name : String) : Option Nat :=
  (lookup name).bind fun text => Decimal.readNat64? (Text.trim text.toList)

def intervalVariable : String := "HEARTH_WATCH_INTERVAL_MS"

def debounceVariable : String := "HEARTH_WATCH_DEBOUNCE_MS"

/-- Variables of the environment that hold a number take the place of what was configured. -/
def overriddenBy (lookup : String → Option String) (t : Timing) : Timing where
  interval := ((millis? lookup intervalVariable).map (max 1)).getD t.interval
  debounce := (millis? lookup debounceVariable).getD t.debounce

theorem step_pos (t : Timing) : 0 < t.step := by
  unfold step
  omega

end Timing

end Household
