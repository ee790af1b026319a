import Household.Layer.Basic

/-! # From documents to layers

The rules that a document has to keep, checked part by part in a fixed order. A broken rule is
reported at its field; a condition that cannot be read is no broken rule.
-/

set_option autoImplicit false

namespace Household

open Household.Text

abbrev Checked (α : Type) := Except LoadFault α

def breach {α : Type} (field : FieldPath) (rule : Breach) : Checked α := .error (.invalid field rule)

def checkSettings (field : FieldPath) (settings : Fragment) : Checked Unit :=
  match settings.check with
  | .ok () => .ok ()
  | .error c => breach (field ++ .keys (c.path.filter (· ≠ ""))) (.setting c.misfit)

def isBlankName (name : String) : Bool := isBlank name.toList

namespace PeriodEntry

def activation (e : PeriodEntry) (field : FieldPath) : Checked Activation :=
  if e.manual then
    if e.start.isSome || e.finish.isSome || e.days.isSome then
      breach field (.manualWithWindow e.name)
    else .ok .manual
  else
    match e.start, e.finish with
    | some start, some finish =>
      match TimeRange.ofTexts start finish with
      | .error bad => breach (field ++ [.key "start"]) (.badTime bad)
      | .ok range =>
        if range.start = range.finish then breach (field ++ [.key "end"]) .emptyWindow
        else
          match e.days with
          | none => .ok (.window range DaySet.all)
          | some names =>
            match DaySet.ofNames names with
            | .error fault => breach (field ++ [.key "days"]) (.badDays fault)
            | .ok days => .ok (.window range days)
    | _, _ => breach field (.incompleteWindow e.name)

def build (e : PeriodEntry) (field : FieldPath) : Checked Period := do
  if isBlankName e.name then breach (field ++ [.key "name"]) .blankPeriodName
  let activation ← e.activation field
  checkSettings (field ++ [.key "settings"]) e.settings
  return ⟨e.name, e.description, activation, e.enabled, e.settings⟩

end PeriodEntry

def buildNamed {α β : Type} (part : String) (name : α → String) (duplicate : String → Breach)
    (build : α → FieldPath → Checked β) (index : Nat) (seen : List String) :
    List α → Checked (List β)
  | [] => .ok []
  | e :: rest => do
    let field := [.key part, .index index]
    let b ← build e field
    -- Last, so that a fault within the entry is reported before its name.
    if name e ∈ seen then breach (field ++ [.key "name"]) (duplicate (name e))
    return b :: (← buildNamed part name duplicate build (index + 1) (name e :: seen) rest)

def buildPeriods : List PeriodEntry → Checked (List Period) :=
  buildNamed "time_periods" PeriodEntry.name .duplicatePeriod PeriodEntry.build 0 []

/-- The name of a condition, or its position if it has none. -/
def conditionLabel (index : Nat) (name : Option String) : String :=
  match name with
  | some name => if isBlankName name then s!"#{index}" else name
  | none => s!"#{index}"

mutual

def ConditionEntry.build (field : FieldPath) (parent : String) (index : Nat) :
    ConditionEntry → Checked RoomCondition
  | ⟨name, source, settings, conditions⟩ => do
    let field := field ++ [.key "conditions", .index index]
    let id := parent ++ "/condition:" ++ conditionLabel index name
    checkSettings (field ++ [.key "settings"]) settings
    return ⟨id, Condition.compile source, settings, ← buildConditions field id 0 conditions⟩

def buildConditions (field : FieldPath) (parent : String) (index : Nat) :
    List ConditionEntry → Checked (List RoomCondition)
  | [] => .ok []
  | e :: rest => do
    let condition ← e.build field parent index
    -- Unlike periods and groups, conditions side by side may share a name.
    return condition :: (← buildConditions field parent (index + 1) rest)

end

def RoomEntry.build (e : RoomEntry) (location : String) : Checked Room := do
  let field := [.key "rooms", .key location]
  checkSettings (field ++ [.key "settings"]) e.settings
  let conditions ← buildConditions field ("room:" ++ location) 0 e.conditions
  return ⟨location, e.name, e.settings, conditions⟩

/-- The settings of a member, the listed interests among them unless the settings name their own. -/
def MemberEntry.allSettings (e : MemberEntry) : Fragment :=
  if e.interests.isEmpty || Keyed.contains e.settings "interests" then e.settings
  else Keyed.insert e.settings "interests" (.list e.interests)

def MemberEntry.build (e : MemberEntry) (id : String) : Checked Member := do
  checkSettings [.key "family_members", .key id, .key "settings"] e.allSettings
  return ⟨id, e.name, e.allSettings⟩

def GroupEntry.build (e : GroupEntry) (field : FieldPath) : Checked Group := do
  if isBlankName e.name then breach (field ++ [.key "name"]) .blankGroupName
  checkSettings (field ++ [.key "settings"]) e.settings
  return ⟨e.name, NameSet.ofList e.members, e.settings⟩

def buildGroups : List GroupEntry → Checked (List Group) :=
  buildNamed "family_groups" GroupEntry.name .duplicateGroup GroupEntry.build 0 []

def buildKeyed {α β : Type} (build : α → String → Checked β) : List (String × α) → Checked (Keyed β)
  | [] => .ok []
  | (key, a) :: rest => do
    let b ← build a key
    return (key, b) :: (← buildKeyed build rest)

namespace Layers

/-- The layers of a document: base, periods, rooms, members and groups are checked in this order. -/
def ofDocument (d : Document) : Checked Layers := do
  checkSettings [.key "base_defaults"] d.base
  let periods ← buildPeriods d.periods
  let rooms ← buildKeyed RoomEntry.build d.rooms
  let members ← buildKeyed MemberEntry.build d.members
  let groups ← buildGroups d.groups
  return ⟨d.base, periods, rooms, groups, members⟩

def ofText (format : Document.Format) (origin : String) (text : List Char) : Checked Layers :=
  match Document.read? format text with
  | none => .error (.malformed origin)
  | some d => ofDocument d

end Layers

end Household
