import Household.Text.Case
import Household.Text.Space

/-! # Days of the week

The seven days, their names, and the names by which they are read.
-/

set_option autoImplicit false

namespace Household

inductive Weekday where
  | monday
  | tuesday
  | wednesday
  | thursday
  | friday
  | saturday
  | sunday
  deriving DecidableEq, Repr

namespace Weekday

open Household.Text

def all : List Weekday := [monday, tuesday, wednesday, thursday, friday, saturday, sunday]

def name : Weekday → String
  | monday => "monday"
  | tuesday => "tuesday"
  | wednesday => "wednesday"
  | thursday => "thursday"
  | friday => "friday"
  | saturday => "saturday"
  | sunday => "sunday"

def abbreviation (d : Weekday) : String := String.ofList (d.name.toList.take 3)

def isWeekend (d : Weekday) : Bool := d == saturday || d == sunday

def ofIndex (n : Nat) : Weekday :=
  match n % 7 with
  | 0 => monday
  | 1 => tuesday
  | 2 => wednesday
  | 3 => thursday
  | 4 => friday
  | 5 => saturday
  | _ => sunday

def normalName (s : String) : String := String.ofList ((trim s.toList).map asciiLower)

def unknownMessage (name : String) : String := s!"unknown weekday: {name}"

/-- The day of that name or abbreviation; an unknown name is given back in the form compared. -/
def ofName (s : String) : Except String Weekday :=
  let given := normalName s
  match all.find? fun d => given == d.name || given == d.abbreviation with
  | some d => .ok d
  | none => .error given

theorem mem_all (d : Weekday) : d ∈ all := by cases d <;> decide

end Weekday

end Household
