import Household.Clock.Pattern

/-! # Windows of time

A daily range of time, both ends included, and the set of days on which it applies. A range that
starts after it ends runs over midnight.
-/

set_option autoImplicit false

namespace Household

open Household.Text

structure TimeRange where
  start : TimeOfDay
  finish : TimeOfDay
  deriving DecidableEq

namespace TimeRange

structure BadTime where
  text : String
  deriving DecidableEq, Repr

def BadTime.message (b : BadTime) : String := s!"invalid time '{b.text}' (expected HH:MM)"

def bound (s : String) : Except BadTime TimeOfDay :=
  let text := trim s.toList
  match Clock.time? text with
  | some t => .ok t
  | none => .error ⟨String.ofList text⟩

/-- The range between two bounds; the start is read first. -/
def ofTexts (start finish : String) : Except BadTime TimeRange :=
  match bound start with
  | .error bad => .error bad
  | .ok s =>
    match bound finish with
    | .error bad => .error bad
    | .ok f => .ok ⟨s, f⟩

def isInverted (r : TimeRange) : Bool := !r.start.le r.finish

def contains (r : TimeRange) (t : TimeOfDay) : Bool :=
  if r.isInverted then r.start.le t || t.le r.finish else r.start.le t && t.le r.finish

def text (r : TimeRange) : String := r.start.shortText ++ "–" ++ r.finish.shortText

end TimeRange

abbrev DaySet := List Weekday

namespace DaySet

inductive Fault where
  | noDays
  | unknownDay (name : String)
  deriving DecidableEq, Repr

def Fault.message : Fault → String
  | noDays => "days list is empty; omit it to mean every day"
  | unknownDay name => Weekday.unknownMessage name

def all : DaySet := Weekday.all

def named (name : String) : Except Fault (List Weekday) :=
  let given := Weekday.normalName name
  if given = "all" ∨ given = "daily" ∨ given = "everyday" then .ok Weekday.all
  else if given = "weekdays" then .ok (Weekday.all.filter (!·.isWeekend))
  else if given = "weekends" ∨ given = "weekend" then .ok (Weekday.all.filter (·.isWeekend))
  else
    match Weekday.ofName given with
    | .ok d => .ok [d]
    | .error unknown => .error (.unknownDay unknown)

/-- The days of all names together; the first unknown name is the fault. -/
def union : List String → Except Fault (List Weekday)
  | [] => .ok []
  | name :: rest =>
    match named name with
    | .error fault => .error fault
    | .ok days => (union rest).map (days ++ ·)

def ofNames (names : List String) : Except Fault DaySet :=
  if names.isEmpty then .error .noDays
  else (union names).map fun days => Weekday.all.filter (days.contains ·)

def contains (days : DaySet) (d : Weekday) : Bool := List.contains days d

def text (days : DaySet) : String :=
  if days.length = 7 then "every day" else ", ".intercalate (days.map (·.name))

end DaySet

end Household
