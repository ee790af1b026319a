import Household.Data.Keyed
import Household.Data.NameSet
import Household.Profile.Permission
import Household.Setting.Choice

/-! # Profiles

The behaviour that holds for one request, and the record of how it came about.
-/

set_option autoImplicit false

namespace Household

structure MemoryAccess where
  personal : Bool
  shared : Bool
  deriving DecidableEq, Repr

structure Rejection where
  field : String
  value : String
  reason : String
  deriving DecidableEq, Repr

/-- A condition that could not be decided and counted as false. -/
structure ConditionFailure where
  condition : String
  error : String
  deriving DecidableEq, Repr

structure Trace where
  applied : List String
  failures : List ConditionFailure
  rejections : List Rejection
  deriving DecidableEq, Repr

def Trace.empty : Trace := ⟨[], [], []⟩

structure Profile where
  responseStyle : ResponseStyle
  vocabularyLevel : VocabularyLevel
  /-- In words; at least one. -/
  maxResponseLength : Nat
  contentRestrictions : NameSet
  blockedTopics : NameSet
  proactiveSuggestions : Bool
  proactiveFrequency : ProactiveFrequency
  interruptionThreshold : InterruptionThreshold
  voiceResponses : Bool
  voiceVolume : VoiceVolume
  voice : String
  notifications : NotificationMode
  model : String
  memory : MemoryAccess
  permissions : Permissions
  preferredVocabulary : List String
  avoidConcepts : List String
  wordReplacements : Keyed String
  interests : List String
  trace : Trace

def usualLength : Nat := 150

def restrictiveLength : Nat := 50

def contentCategories : List String := ["profanity", "violence", "mature_themes", "scary_content"]

namespace Profile

def usual : Profile where
  responseStyle := Choice.usual
  vocabularyLevel := Choice.usual
  maxResponseLength := usualLength
  contentRestrictions := []
  blockedTopics := []
  proactiveSuggestions := true
  proactiveFrequency := Choice.usual
  interruptionThreshold := Choice.usual
  voiceResponses := true
  voiceVolume := Choice.usual
  voice := "default"
  notifications := Choice.usual
  model := "default"
  memory := ⟨true, true⟩
  permissions := ⟨["*"], []⟩
  preferredVocabulary := []
  avoidConcepts := []
  wordReplacements := []
  interests := []
  trace := .empty

/-- The profile with every field at the value that permits least. -/
def restrictive : Profile :=
  { usual with
    responseStyle := Choice.restrictive
    vocabularyLevel := Choice.restrictive
    maxResponseLength := restrictiveLength
    contentRestrictions := NameSet.ofList contentCategories
    proactiveSuggestions := false
    proactiveFrequency := Choice.restrictive
    interruptionThreshold := Choice.restrictive
    voiceResponses := false
    voiceVolume := Choice.restrictive
    notifications := Choice.restrictive
    memory := ⟨false, false⟩
    permissions := ⟨[], []⟩ }

def allows (p : Profile) (action : String) : Bool := p.permissions.allows action

end Profile

end Household
