import Household.Layer.Window
import Household.Setting.Schema
import Household.Text.Utf8

/-! # What can be wrong with a document

A document may be unreadable, of an unknown format, not well-formed, or break a rule of the layers
at a certain field.
-/

set_option autoImplicit false

namespace Household

inductive Step where
  | key (name : String)
  | index (n : Nat)
  deriving DecidableEq, Repr

abbrev FieldPath := List Step

namespace FieldPath

def stepText : Step → String
  | .key name => "." ++ name
  | .index n => s!"[{n}]"

/-- Keys are joined by points, and positions stand in brackets. -/
def text : FieldPath → String
  | [] => ""
  | .key name :: rest => name ++ String.join (rest.map stepText)
  | path => String.join (path.map stepText)

def keys (names : List String) : FieldPath := names.map .key

end FieldPath

inductive Breach where
  | setting (misfit : Misfit)
  | blankPeriodName
  | duplicatePeriod (name : String)
  | manualWithWindow (name : String)
  | incompleteWindow (name : String)
  | badTime (bad : TimeRange.BadTime)
  | emptyWindow
  | badDays (fault : DaySet.Fault)
  | blankGroupName
  | duplicateGroup (name : String)
  deriving DecidableEq, Repr

def Breach.message : Breach → String
  | setting misfit => misfit.message
  | blankPeriodName => "time period name cannot be empty"
  | duplicatePeriod name => s!"duplicate time period '{name}'"
  | manualWithWindow name =>
    s!"time period '{name}' is manual-only but also declares a window; use one or the other"
  | incompleteWindow name =>
    s!"time period '{name}' must declare both start and end, or set manual = true"
  | badTime bad => bad.message
  | emptyWindow => "start and end are equal; the window is ambiguous"
  | badDays fault => fault.message
  | blankGroupName => "family group name cannot be empty"
  | duplicateGroup name => s!"duplicate family group '{name}'"

inductive ReadFault where
  | missing
  | notText
  | notUtf8 (fault : Text.Utf8Fault)
  deriving DecidableEq, Repr

def ReadFault.message : ReadFault → String
  | missing => "No such file or directory (os error 2)"
  | notText => "stream did not contain valid UTF-8"
  | notUtf8 fault => fault.message

inductive LoadFault where
  | unreadable (path : String) (fault : ReadFault)
  | unknownFormat (path extension : String)
  | malformed (origin : String)
  | invalid (field : FieldPath) (breach : Breach)
  deriving DecidableEq, Repr

def LoadFault.message : LoadFault → String
  | unreadable path fault => s!"Failed to read config file at {path}: " ++ fault.message
  | unknownFormat path extension =>
    s!"Unsupported config format '.{extension}' for {path} (expected .toml or .json)"
  | malformed origin => s!"Failed to parse config from {origin}"
  | invalid field breach => "Invalid value at " ++ field.text ++ ": " ++ breach.message

end Household
