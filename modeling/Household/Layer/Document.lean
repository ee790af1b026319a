import Household.Setting.FromJson
import Household.Toml.Reader

/-! # Documents

What a household writes down: base settings, periods of time, rooms with conditions, groups and
members. The structural parts admit no unknown fields; settings admit any key.
-/

set_option autoImplicit false

namespace Household

structure PeriodEntry where
  name : String
  description : String
  manual : Bool
  start : Option String
  finish : Option String
  days : Option (List String)
  enabled : Bool
  settings : Fragment

structure ConditionEntry where
  name : Option String
  source : String
  settings : Fragment
  conditions : List ConditionEntry

structure RoomEntry where
  name : Option String
  settings : Fragment
  conditions : List ConditionEntry

structure GroupEntry where
  name : String
  members : List String
  settings : Fragment

structure MemberEntry where
  name : Option String
  interests : List String
  settings : Fragment

structure Document where
  base : Fragment
  periods : List PeriodEntry
  rooms : Keyed RoomEntry
  groups : List GroupEntry
  members : Keyed MemberEntry

namespace Document

/-- How a structural part may be written as a list of its fields: with no item too many, or with
further items that do not count. -/
inductive Surplus where
  | refused
  | ignored
  deriving DecidableEq, Repr

/-- The fields of a structural part, in the order of `names`. An object may have each of them once
and no others; a list gives them in order, and missing ones at its end are absent. -/
def fields? (surplus : Surplus) (names : List String) : Json → Option (Keyed Json)
  | .obj fields =>
    if (fields.map (·.1)).all (names.contains ·) && (fields.map (·.1)).Nodup then some fields
    else none
  | .arr items =>
    if surplus = .refused ∧ names.length < items.length then none else some (names.zip items)
  | _ => none

def field? {α : Type} (fields : Keyed Json) (name : String) (missing : α) (read : Json → Option α) :
    Option α :=
  match Keyed.get? fields name with
  | none => some missing
  | some j => read j

def required? {α : Type} (fields : Keyed Json) (name : String) (read : Json → Option α) :
    Option α := (Keyed.get? fields name).bind read

/-- Null stands for a missing value. -/
def optional? {α : Type} (read : Json → Option α) : Json → Option (Option α)
  | .null => some none
  | j => (read j).map some

def list? {α : Type} (read : Json → Option α) : Json → Option (List α)
  | .arr items => items.mapM read
  | _ => none

/-- Of several entries under one name the last counts, but each has to be readable. -/
def keyed? {α : Type} (read : Json → Option α) : Json → Option (Keyed α)
  | .obj fields => (fields.mapM fun field => (read field.2).map (field.1, ·)).map Keyed.ofList
  | _ => none

def settings? : Json → Option Fragment :=
  keyed? fun j => (Setting.ofJson j.normal).toOption

def period? (surplus : Surplus) (j : Json) : Option PeriodEntry := do
  let fields ← fields? surplus
    ["name", "description", "manual", "start", "end", "days", "enabled", "settings"] j
  some
    { name := ← required? fields "name" Json.str?
      description := ← field? fields "description" "" Json.str?
      manual := ← field? fields "manual" false Json.bool?
      start := ← field? fields "start" none (optional? Json.str?)
      finish := ← field? fields "end" none (optional? Json.str?)
      days := ← field? fields "days" none (optional? Json.strings?)
      enabled := ← field? fields "enabled" true Json.bool?
      settings := ← field? fields "settings" [] settings? }

def condition? (surplus : Surplus) : Nat → Json → Option ConditionEntry
  | 0, _ => none
  | depth + 1, j => do
    let fields ← fields? surplus ["name", "when", "settings", "conditions"] j
    let name ← field? fields "name" none (optional? Json.str?)
    let source ← required? fields "when" Json.str?
    let settings ← field? fields "settings" [] settings?
    let conditions ← field? fields "conditions" [] (list? (condition? surplus depth))
    some ⟨name, source, settings, conditions⟩

def room? (surplus : Surplus) (j : Json) : Option RoomEntry := do
  let fields ← fields? surplus ["name", "settings", "conditions"] j
  some
    { name := ← field? fields "name" none (optional? Json.str?)
      settings := ← field? fields "settings" [] settings?
      conditions := ← field? fields "conditions" [] (list? (condition? surplus j.depth)) }

def group? (surplus : Surplus) (j : Json) : Option GroupEntry := do
  let fields ← fields? surplus ["name", "members", "settings"] j
  some
    { name := ← required? fields "name" Json.str?
      members := ← field? fields "members" [] Json.strings?
      settings := ← field? fields "settings" [] settings? }

def member? (surplus : Surplus) (j : Json) : Option MemberEntry := do
  let fields ← fields? surplus ["name", "interests", "settings"] j
  some
    { name := ← field? fields "name" none (optional? Json.str?)
      interests := ← field? fields "interests" [] Json.strings?
      settings := ← field? fields "settings" [] settings? }

def ofTree? (surplus : Surplus) (j : Json) : Option Document := do
  let fields ← fields? surplus
    ["base_defaults", "time_periods", "rooms", "family_groups", "family_members"] j
  some
    { base := ← field? fields "base_defaults" [] settings?
      periods := ← field? fields "time_periods" [] (list? (period? surplus))
      rooms := ← field? fields "rooms" [] (keyed? (room? surplus))
      groups := ← field? fields "family_groups" [] (list? (group? surplus))
      members := ← field? fields "family_members" [] (keyed? (member? surplus)) }

inductive Format where
  | toml
  | json
  deriving DecidableEq, Repr

def read? (format : Format) (text : List Char) : Option Document :=
  match format with
  | .toml => (Toml.read? text).bind fun entries => ofTree? .ignored (.obj (Toml.entriesToJson entries))
  | .json => (Json.read? text).bind (ofTree? .refused)

end Document

end Household
