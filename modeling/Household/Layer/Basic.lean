import Household.Layer.Document
import Household.Layer.Fault
import Household.Request

/-! # Layers

The layers of a household after all rules have been checked, and which of them a request selects.
-/

set_option autoImplicit false

namespace Household

inductive Activation where
  | window (range : TimeRange) (days : DaySet)
  | manual
  deriving DecidableEq

structure Period where
  name : String
  description : String
  activation : Activation
  enabled : Bool
  settings : Fragment

/-- A condition of a room, and the conditions that are only looked at when it holds. -/
structure RoomCondition where
  id : String
  test : Condition.Compiled
  settings : Fragment
  conditions : List RoomCondition

structure Room where
  location : String
  name : Option String
  settings : Fragment
  conditions : List RoomCondition

structure Group where
  name : String
  members : NameSet
  settings : Fragment

structure Member where
  id : String
  name : Option String
  settings : Fragment

structure Layers where
  base : Fragment
  periods : List Period
  rooms : Keyed Room
  groups : List Group
  members : Keyed Member

namespace Period

def label (p : Period) : String := "time:" ++ p.name

def isActive (p : Period) (r : Request) : Bool :=
  p.enabled &&
    match p.activation with
    | .manual => r.modes.contains p.name
    | .window range days => days.contains r.weekday && range.contains r.time

end Period

def Room.label (r : Room) : String := "room:" ++ r.location

def Group.label (g : Group) : String := "group:" ++ g.name

def Member.label (m : Member) : String := "member:" ++ m.id

namespace Activation

def text : Activation → String
  | manual => "manual"
  | window range days => range.text ++ " (" ++ days.text ++ ")"

end Activation

structure Summary where
  baseKeys : Nat
  periods : Nat
  manualPeriods : Nat
  rooms : Nat
  conditions : Nat
  brokenConditions : Nat
  groups : Nat
  members : Nat
  deriving DecidableEq, Repr

namespace Summary

def counts (s : Summary) : List (String × Nat) :=
  [ ("base_keys", s.baseKeys),
    ("time_periods", s.periods),
    ("manual_periods", s.manualPeriods),
    ("rooms", s.rooms),
    ("conditions", s.conditions),
    ("broken_conditions", s.brokenConditions),
    ("family_groups", s.groups),
    ("family_members", s.members) ]

def toJson (s : Summary) : Json := .obj (s.counts.map fun n => (n.1, .int n.2))

end Summary

mutual

/-- Conditions of all depths, and how many of them cannot be read. -/
def RoomCondition.count : RoomCondition → Nat × Nat
  | ⟨_, test, _, conditions⟩ =>
    let (total, broken) := countAll conditions
    (total + 1, broken + if test.fault?.isSome then 1 else 0)

def countAll : List RoomCondition → Nat × Nat
  | [] => (0, 0)
  | c :: rest =>
    let (total, broken) := c.count
    let (laterTotal, laterBroken) := countAll rest
    (total + laterTotal, broken + laterBroken)

end

namespace Layers

def empty : Layers := ⟨[], [], [], [], []⟩

def activePeriods (l : Layers) (r : Request) : List Period := l.periods.filter (·.isActive r)

def room? (l : Layers) (location : String) : Option Room := Keyed.get? l.rooms location

/-- The first group that has the speaker as a member. -/
def groupOf? (l : Layers) (speaker : String) : Option Group :=
  l.groups.find? (·.members.contains speaker)

def member? (l : Layers) (speaker : String) : Option Member := Keyed.get? l.members speaker

def summary (l : Layers) : Summary :=
  let (conditions, broken) := countAll (l.rooms.flatMap (·.2.conditions))
  { baseKeys := l.base.length
    periods := l.periods.length
    manualPeriods := l.periods.countP (·.activation = .manual)
    rooms := l.rooms.length
    conditions := conditions
    brokenConditions := broken
    groups := l.groups.length
    members := l.members.length }

end Layers

end Household
