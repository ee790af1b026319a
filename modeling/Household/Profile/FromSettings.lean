import Household.Profile.Basic
import Household.Setting.Fragment

/-! # From settings to a profile

A missing key takes its usual value. A value of the wrong kind, or a name that is not one of a fixed
set, takes the restrictive value of its field and is recorded.
-/

set_option autoImplicit false

namespace Household

structure Reading (α : Type) where
  value : α
  rejected : List Rejection

namespace Reading

variable {α β : Type}

def accept (a : α) : Reading α := ⟨a, []⟩

def reject (a : α) (field : String) (given : Setting) (reason : String) : Reading α :=
  ⟨a, [⟨field, given.shown, reason⟩]⟩

def wrongKind (a : α) (field expected : String) (given : Setting) : Reading α :=
  reject a field given s!"expected {expected}, found {given.kind}"

def map (f : α → β) (r : Reading α) : Reading β := ⟨f r.value, r.rejected⟩

end Reading

namespace Fragment

open Reading

def readChoice (α : Type) [Choice α] (f : Fragment) : Reading α :=
  match get? f (Choice.key α) with
  | none => accept Choice.usual
  | some (.str s) =>
    match Choice.ofName α s with
    | .ok a => accept a
    | .error unknown => reject Choice.restrictive (Choice.key α) (.str s) unknown.message
  | some other => wrongKind Choice.restrictive (Choice.key α) "string" other

def readLength (f : Fragment) : Reading Nat :=
  let key := "max_response_length"
  match get? f key with
  | none => accept usualLength
  | some value =>
    match value.int? with
    | some n =>
      if 1 ≤ n then accept n.toNat else reject 1 key value "must be at least 1"
    | none => wrongKind restrictiveLength key "integer" value

def readFlagAt (f : Fragment) (key field : String) : Reading Bool :=
  match get? f key with
  | none => accept true
  | some (.bool b) => accept b
  | some other => wrongKind false field "boolean" other

def readFlag (f : Fragment) (key : String) : Reading Bool := readFlagAt f key key

def readText (f : Fragment) (key : String) : Reading String :=
  match get? f key with
  | none => accept "default"
  | some (.str s) => accept s
  | some other => wrongKind "default" key "string" other

def readListAt (f : Fragment) (key field : String) (missing refused : List String) :
    Reading (List String) :=
  match get? f key with
  | none => accept missing
  | some (.list items) => accept items
  | some other => wrongKind refused field "list" other

def readList (f : Fragment) (key : String) : Reading (List String) := readListAt f key key [] []

def readRestrictions (f : Fragment) : Reading NameSet :=
  let key := "content_restrictions"
  (readListAt f key key [] contentCategories).map NameSet.ofList

def readMemory (f : Fragment) : Reading MemoryAccess :=
  match get? f "memory" with
  | none => accept ⟨true, true⟩
  | some (.table entries) =>
    let personal := readFlagAt entries "include_personal" "memory.include_personal"
    let shared := readFlagAt entries "include_shared" "memory.include_shared"
    ⟨⟨personal.value, shared.value⟩, personal.rejected ++ shared.rejected⟩
  | some other => wrongKind ⟨false, false⟩ "memory" "table" other

def readPermissions (f : Fragment) : Reading Permissions :=
  match get? f "permissions" with
  | none => accept Profile.usual.permissions
  | some (.table entries) =>
    let allowed := readListAt entries "allowed" "permissions.allowed" ["*"] []
    let denied := readListAt entries "denied" "permissions.denied" [] []
    ⟨⟨allowed.value, denied.value⟩, allowed.rejected ++ denied.rejected⟩
  | some other => wrongKind Profile.restrictive.permissions "permissions" "table" other

/-- The strings of a table; every other entry is dropped and recorded. -/
def readWords : List (String × Setting) → Reading (Keyed String)
  | [] => accept []
  | (word, value) :: rest =>
    let later := readWords rest
    match value with
    | .str replacement => ⟨(word, replacement) :: later.value, later.rejected⟩
    | other =>
      let refused := wrongKind () s!"word_replacements.{word}" "string" other
      ⟨later.value, refused.rejected ++ later.rejected⟩

def readReplacements (f : Fragment) : Reading (Keyed String) :=
  match get? f "word_replacements" with
  | none => accept []
  | some (.table entries) => readWords entries
  | some other => wrongKind [] "word_replacements" "table" other

/-- The profile that the settings describe, its trace still empty, and what was rejected, field by
field. -/
def toProfile (f : Fragment) : Reading Profile :=
  let style := readChoice ResponseStyle f
  let level := readChoice VocabularyLevel f
  let length := readLength f
  let restrictions := readRestrictions f
  let topics := readList f "blocked_topics"
  let suggestions := readFlag f "proactive_suggestions"
  let frequency := readChoice ProactiveFrequency f
  let threshold := readChoice InterruptionThreshold f
  let responses := readFlag f "voice_responses"
  let volume := readChoice VoiceVolume f
  let voice := readText f "voice"
  let notifications := readChoice NotificationMode f
  let model := readText f "model"
  let memory := readMemory f
  let permissions := readPermissions f
  let vocabulary := readList f "preferred_vocabulary"
  let concepts := readList f "avoid_concepts"
  let replacements := readReplacements f
  let interests := readList f "interests"
  { value :=
      { responseStyle := style.value
        vocabularyLevel := level.value
        maxResponseLength := length.value
        contentRestrictions := restrictions.value
        blockedTopics := NameSet.ofList topics.value
        proactiveSuggestions := suggestions.value
        proactiveFrequency := frequency.value
        interruptionThreshold := threshold.value
        voiceResponses := responses.value
        voiceVolume := volume.value
        voice := voice.value
        notifications := notifications.value
        model := model.value
        memory := memory.value
        permissions := permissions.value
        preferredVocabulary := vocabulary.value
        avoidConcepts := concepts.value
        wordReplacements := replacements.value
        interests := interests.value
        trace := .empty }
    rejected :=
      style.rejected ++ level.rejected ++ length.rejected ++ restrictions.rejected ++
        topics.rejected ++ suggestions.rejected ++ frequency.rejected ++ threshold.rejected ++
        responses.rejected ++ volume.rejected ++ voice.rejected ++ notifications.rejected ++
        model.rejected ++ memory.rejected ++ permissions.rejected ++ vocabulary.rejected ++
        concepts.rejected ++ replacements.rejected ++ interests.rejected }

end Fragment

end Household
