import Household.Setting.Choice
import Household.Setting.Fragment

/-! # The known settings

The shape that the value of each known key must have, and what a value is reproached with. Keys
that are not known are not checked.
-/

set_option autoImplicit false

namespace Household

inductive Shape where
  | flag
  | positive
  | text
  | list
  | oneOf (names : List String)
  | words
  | table (fields : List (String × Shape))

inductive Misfit where
  | kind (expected found : String)
  | tooSmall (n : Int)
  | unknownName (name : String) (expected : List String)
  deriving DecidableEq, Repr

def Misfit.message : Misfit → String
  | .kind expected found => s!"expected {expected}, found {found}"
  | .tooSmall n => s!"must be at least 1, found {n}"
  | .unknownName name expected =>
    s!"unknown value '{name}' (expected one of: " ++ ", ".intercalate expected ++ ")"

structure Complaint where
  path : List String
  misfit : Misfit
  deriving DecidableEq, Repr

def Complaint.under (key : String) (c : Complaint) : Complaint := ⟨key :: c.path, c.misfit⟩

def checkAll (check : String → Setting → Except Complaint Unit) :
    List (String × Setting) → Except Complaint Unit
  | [] => .ok ()
  | (key, value) :: rest =>
    match check key value with
    | .ok () => checkAll check rest
    | .error c => .error c

def checkWord (key : String) : Setting → Except Complaint Unit
  | .str _ | .unset => .ok ()
  | other => .error ⟨[key], .kind "string" other.kind⟩

namespace Shape

mutual

/-- An unset value fits every shape. -/
def check (shape : Shape) (value : Setting) : Except Complaint Unit :=
  match shape, value with
  | _, .unset => .ok ()
  | .flag, .bool _ => .ok ()
  | .flag, other => .error ⟨[], .kind "boolean" other.kind⟩
  | .positive, value =>
    match value.int? with
    | some n => if 1 ≤ n then .ok () else .error ⟨[], .tooSmall n⟩
    | none => .error ⟨[], .kind "integer" value.kind⟩
  | .text, .str _ => .ok ()
  | .text, other => .error ⟨[], .kind "string" other.kind⟩
  | .list, .list _ => .ok ()
  | .list, other => .error ⟨[], .kind "list of strings" other.kind⟩
  | .oneOf names, .str s => if s ∈ names then .ok () else .error ⟨[], .unknownName s names⟩
  | .oneOf _, other => .error ⟨[], .kind "string" other.kind⟩
  | .words, .table entries => checkAll checkWord entries
  | .words, other => .error ⟨[], .kind "table" other.kind⟩
  | .table fields, .table entries => checkAll (checkField fields) entries
  | .table _, other => .error ⟨[], .kind "table" other.kind⟩

/-- The value under a key fits the field of that name; a key without a field is let through. -/
def checkField : List (String × Shape) → String → Setting → Except Complaint Unit
  | [], _, _ => .ok ()
  | (name, shape) :: rest, key, value =>
    if name = key then
      match check shape value with
      | .ok () => .ok ()
      | .error c => .error (c.under key)
    else checkField rest key value

end

end Shape

def memoryFields : List (String × Shape) :=
  [("include_personal", .flag), ("include_shared", .flag)]

def permissionFields : List (String × Shape) := [("allowed", .list), ("denied", .list)]

def knownSettings : List (String × Shape) :=
  [ (Choice.key ResponseStyle, .oneOf (Choice.names ResponseStyle)),
    (Choice.key VocabularyLevel, .oneOf (Choice.names VocabularyLevel)),
    ("max_response_length", .positive),
    ("content_restrictions", .list),
    ("blocked_topics", .list),
    ("proactive_suggestions", .flag),
    (Choice.key ProactiveFrequency, .oneOf (Choice.names ProactiveFrequency)),
    (Choice.key InterruptionThreshold, .oneOf (Choice.names InterruptionThreshold)),
    ("voice_responses", .flag),
    (Choice.key VoiceVolume, .oneOf (Choice.names VoiceVolume)),
    ("voice", .text),
    (Choice.key NotificationMode, .oneOf (Choice.names NotificationMode)),
    ("model", .text),
    ("memory", .table memoryFields),
    ("permissions", .table permissionFields),
    ("preferred_vocabulary", .list),
    ("avoid_concepts", .list),
    ("word_replacements", .words),
    ("interests", .list) ]

def shapeOf? (key : String) : Option Shape := Keyed.get? knownSettings key

def Fragment.check (f : Fragment) : Except Complaint Unit := checkAll (Shape.checkField knownSettings) f

end Household
