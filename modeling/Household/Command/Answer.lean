import Household.Command.Outcome
import Household.Json.Printer
import Household.Profile.ToJson
import Household.Reply.Adapt
import Household.Resolution.Resolve

/-! # Answering requests

The profile of a request, the merged settings behind it, and a reply adapted to it, as JSON.
-/

set_option autoImplicit false

namespace Household

def Merged.toJson (m : Merged) : Json :=
  .obj [("fragment", m.fragment.toJson), ("trace", m.trace.toJson)]

def Reply.Adapted.toJson (a : Reply.Adapted) : Json :=
  .obj
    [ ("text", .str (String.ofList a.text)),
      ("modifications", .ofStrings a.notes),
      ("truncated", .bool a.truncated),
      ("word_count", .int a.wordCount) ]

namespace Command

/-- Prints what `answer` makes of the layers of a file and a request. The file is read first. -/
def answering (path : String) (content : Option (List UInt8)) (options : Options)
    (answer : Layers → Request → Json) : Outcome :=
  match Layers.load path content with
  | .error fault => ⟨"", some (.load fault)⟩
  | .ok layers =>
    match options.request with
    | .error fault => ⟨"", some (.badOption fault)⟩
    | .ok request => ⟨lines [(answer layers request).pretty], none⟩

def resolve (path : String) (content : Option (List UInt8)) (options : Options) (merged : Bool) :
    Outcome :=
  answering path content options fun layers request =>
    if merged then (layers.merge request).toJson.normal else (layers.resolve request).toJson.normal

def adapt (path : String) (content : Option (List UInt8)) (options : Options) (draft : String) :
    Outcome :=
  answering path content options fun layers request =>
    (Reply.adapt (layers.resolve request) draft.toList).toJson

end Command

end Household
