import Household.Layer.Basic
import Household.Profile.Basic

/-! # Merging the layers of a request

The layers that a request selects are merged one over the other: the base, the periods that hold,
the room with those of its conditions that hold, the first group of the speaker, and the speaker.
-/

set_option autoImplicit false

namespace Household

structure Merged where
  fragment : Fragment
  trace : Trace

namespace Merged

def empty : Merged := ⟨[], .empty⟩

def apply (m : Merged) (label : String) (settings : Fragment) : Merged :=
  ⟨Fragment.merge m.fragment settings, { m.trace with applied := m.trace.applied ++ [label] }⟩

def fail (m : Merged) (label : String) (fault : Condition.Fault) : Merged :=
  ⟨m.fragment, { m.trace with failures := m.trace.failures ++ [⟨label, fault.message⟩] }⟩

mutual

def applyCondition (s : Condition.Scene) (m : Merged) : RoomCondition → Merged
  | ⟨id, test, settings, conditions⟩ =>
    match test.holds s with
    | .ok true => applyConditions s (m.apply id settings) conditions
    | .ok false => m
    | .error fault => m.fail id fault

/-- Conditions in order; those below a condition are looked at right after it, if it holds. -/
def applyConditions (s : Condition.Scene) (m : Merged) : List RoomCondition → Merged
  | [] => m
  | c :: rest => applyConditions s (applyCondition s m c) rest

end

def applyRoom (m : Merged) (r : Request) (room : Room) : Merged :=
  applyConditions r.scene (m.apply room.label room.settings) room.conditions

def applyPeriods (m : Merged) (periods : List Period) : Merged :=
  periods.foldl (fun m p => m.apply p.label p.settings) m

def applyGroup (m : Merged) (group : Option Group) : Merged :=
  match group with
  | some g => m.apply g.label g.settings
  | none => m

def applyMember (m : Merged) (member : Option Member) : Merged :=
  match member with
  | some p => m.apply p.label p.settings
  | none => m

end Merged

def baseLabel : String := "base"

namespace Layers

def merge (l : Layers) (r : Request) : Merged :=
  let timed := (Merged.empty.apply baseLabel l.base).applyPeriods (l.activePeriods r)
  let placed :=
    match r.location.bind l.room? with
    | some room => timed.applyRoom r room
    | none => timed
  match r.speaker with
  | some speaker => (placed.applyGroup (l.groupOf? speaker)).applyMember (l.member? speaker)
  | none => placed

end Layers

end Household
