import Household.Json.Basic
import Household.Profile.Basic

/-! # Profiles as JSON

Names of fields are those of the settings. Empty lists of failures and rejections are left out.
-/

set_option autoImplicit false

namespace Household

def ConditionFailure.toJson (f : ConditionFailure) : Json :=
  .obj [("condition", .str f.condition), ("error", .str f.error)]

def Rejection.toJson (r : Rejection) : Json :=
  .obj [("field", .str r.field), ("value", .str r.value), ("reason", .str r.reason)]

def unlessEmpty (key : String) (items : List Json) : List (String × Json) :=
  if items.isEmpty then [] else [(key, .arr items)]

def Trace.toJson (t : Trace) : Json :=
  .obj <|
    ("applied", Json.ofStrings t.applied) ::
      unlessEmpty "condition_errors" (t.failures.map (·.toJson)) ++
      unlessEmpty "rejected_values" (t.rejections.map (·.toJson))

def Choice.toJson {α : Type} [Choice α] (a : α) : Json := .str (Choice.name a)

def Profile.toJson (p : Profile) : Json :=
  .obj
    [ ("response_style", Choice.toJson p.responseStyle),
      ("vocabulary_level", Choice.toJson p.vocabularyLevel),
      ("max_response_length", .int p.maxResponseLength),
      ("content_restrictions", .ofStrings p.contentRestrictions),
      ("blocked_topics", .ofStrings p.blockedTopics),
      ("proactive_suggestions", .bool p.proactiveSuggestions),
      ("proactive_frequency", Choice.toJson p.proactiveFrequency),
      ("interruption_threshold", Choice.toJson p.interruptionThreshold),
      ("voice_responses", .bool p.voiceResponses),
      ("voice_volume", Choice.toJson p.voiceVolume),
      ("voice", .str p.voice),
      ("notifications", Choice.toJson p.notifications),
      ("model", .str p.model),
      ("memory",
        .obj
          [ ("include_personal", .bool p.memory.personal),
            ("include_shared", .bool p.memory.shared) ]),
      ("permissions",
        .obj
          [ ("allowed", .ofStrings p.permissions.allowed),
            ("denied", .ofStrings p.permissions.denied) ]),
      ("preferred_vocabulary", .ofStrings p.preferredVocabulary),
      ("avoid_concepts", .ofStrings p.avoidConcepts),
      ("word_replacements", .obj (Keyed.mapValues .str p.wordReplacements)),
      ("interests", .ofStrings p.interests),
      ("trace", p.trace.toJson) ]

end Household
