import Household.Command.Outcome

/-! # Validating a document

A document is read, and what it holds is listed for the reader.
-/

set_option autoImplicit false

namespace Household

namespace Command

def column (name : String) : String :=
  name ++ String.ofList (List.replicate (16 - name.length) ' ')

def countLines (s : Summary) : List String :=
  [ s!"   Base keys:     {s.baseKeys}",
    s!"   Time periods:  {s.periods} ({s.manualPeriods} manual)",
    s!"   Rooms:         {s.rooms}",
    s!"   Conditions:    {s.conditions}",
    s!"   Groups:        {s.groups}",
    s!"   Members:       {s.members}" ]

def periodLine (p : Period) : String :=
  "   ⏰ " ++ column p.name ++ " " ++ p.activation.text ++ if p.enabled then "" else " [disabled]"

def groupLine (g : Group) : String :=
  "   👪 " ++ column g.name ++ " " ++ ", ".intercalate g.members

/-- The lines after an empty one, unless there are none. -/
def paragraph (texts : List String) : List String := if texts.isEmpty then [] else "" :: texts

def brokenLines (s : Summary) : List String :=
  if s.brokenConditions = 0 then []
  else [s!"   ⚠️  {s.brokenConditions} condition(s) do not compile and will always be false"]

def report (l : Layers) : List String :=
  paragraph (countLines l.summary) ++ paragraph (l.periods.map periodLine) ++
    l.groups.map groupLine ++ paragraph (brokenLines l.summary)

def validate (path : String) (content : Option (List UInt8)) : Outcome :=
  let opening := s!"🔍 Validating {path}..."
  match Layers.load path content with
  | .error fault =>
    ⟨lines [opening, "   ❌ Config error: " ++ fault.message], some (.load fault)⟩
  | .ok layers => ⟨lines (opening :: "   ✅ Document is valid" :: report layers), none⟩

end Command

end Household
