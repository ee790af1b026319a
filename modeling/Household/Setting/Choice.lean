import Household.Setting.Basic

/-! # Settings with a fixed set of values

Each such setting has a key, its values with their names, the value that stands when no layer says
anything, and the restrictive value that stands when what the layers say cannot be used.
-/

set_option autoImplicit false

namespace Household

class Choice (α : Type) where
  key : String
  all : List α
  name : α → String
  usual : α
  restrictive : α

inductive ResponseStyle where
  | brief
  | conversational
  | detailed
  | playful
  | formal
  deriving DecidableEq, Repr

inductive VocabularyLevel where
  | adult
  | simple
  | verySimple
  | toddler
  deriving DecidableEq, Repr

inductive ProactiveFrequency where
  | never
  | low
  | medium
  | high
  deriving DecidableEq, Repr

/-- The least importance of an event that may interrupt. -/
inductive InterruptionThreshold where
  | any
  | important
  | urgentOnly
  | never
  deriving DecidableEq, Repr

inductive VoiceVolume where
  | whisper
  | quiet
  | normal
  | loud
  deriving DecidableEq, Repr

inductive NotificationMode where
  | all
  | visualOnly
  | audioOnly
  | silent
  deriving DecidableEq, Repr

instance : Choice ResponseStyle where
  key := "response_style"
  all := [.brief, .conversational, .detailed, .playful, .formal]
  name
    | .brief => "brief"
    | .conversational => "conversational"
    | .detailed => "detailed"
    | .playful => "playful"
    | .formal => "formal"
  usual := .conversational
  restrictive := .brief

instance : Choice VocabularyLevel where
  key := "vocabulary_level"
  all := [.adult, .simple, .verySimple, .toddler]
  name
    | .adult => "adult"
    | .simple => "simple"
    | .verySimple => "very_simple"
    | .toddler => "toddler"
  usual := .adult
  restrictive := .toddler

instance : Choice ProactiveFrequency where
  key := "proactive_frequency"
  all := [.never, .low, .medium, .high]
  name
    | .never => "never"
    | .low => "low"
    | .medium => "medium"
    | .high => "high"
  usual := .medium
  restrictive := .never

instance : Choice InterruptionThreshold where
  key := "interruption_threshold"
  all := [.any, .important, .urgentOnly, .never]
  name
    | .any => "any"
    | .important => "important"
    | .urgentOnly => "urgent_only"
    | .never => "never"
  usual := .important
  restrictive := .never

instance : Choice VoiceVolume where
  key := "voice_volume"
  all := [.whisper, .quiet, .normal, .loud]
  name
    | .whisper => "whisper"
    | .quiet => "quiet"
    | .normal => "normal"
    | .loud => "loud"
  usual := .normal
  restrictive := .quiet

instance : Choice NotificationMode where
  key := "notifications"
  all := [.all, .visualOnly, .audioOnly, .silent]
  name
    | .all => "all"
    | .visualOnly => "visual_only"
    | .audioOnly => "audio_only"
    | .silent => "none"
  usual := .all
  restrictive := .visualOnly

namespace Choice

variable (α : Type) [Choice α]

def names : List String := (all : List α).map name

def ofName? (s : String) : Option α := (all : List α).find? fun a => name a == s

structure Unknown where
  key : String
  value : String
  expected : List String

def Unknown.message (u : Unknown) : String :=
  s!"unknown value '{u.value}' for {u.key} (expected one of: " ++ ", ".intercalate u.expected ++ ")"

def ofName (s : String) : Except Unknown α :=
  match ofName? α s with
  | some a => .ok a
  | none => .error ⟨key α, s, names α⟩

end Choice

/-- Position among the levels; a higher one is stricter. -/
def VocabularyLevel.strictness : VocabularyLevel → Nat
  | .adult => 0
  | .simple => 1
  | .verySimple => 2
  | .toddler => 3

end Household
