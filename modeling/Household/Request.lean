import Household.Clock.Pattern
import Household.Condition.Eval

/-! # Requests

Everything that may decide how one request is answered: who speaks, where, when, which modes are
switched on, the named states of the home, and who is present.
-/

set_option autoImplicit false

namespace Household

structure Request where
  speaker : Option String
  location : Option String
  moment : Moment
  modes : NameSet
  state : Keyed Json
  occupants : NameSet

namespace Request

def ofMoment (moment : Moment) : Request := ⟨none, none, moment, [], [], []⟩

def time (r : Request) : TimeOfDay := r.moment.time

def hour (r : Request) : Nat := r.time.hour

def minute (r : Request) : Nat := r.time.minute

def weekday (r : Request) : Weekday := r.moment.date.weekday

/-- What the conditions of a room can see of the request. -/
def scene (r : Request) : Condition.Scene where
  hour := r.hour
  minute := r.minute
  weekday := r.weekday
  state := r.state
  occupants := r.occupants

def fieldNames : List String :=
  ["speaker_id", "location_id", "timestamp", "manual_modes", "state", "occupants"]

def fieldsOf? : Json → Option (Keyed Json)
  | .obj fields => some fields
  | .arr items => if fieldNames.length < items.length then none else some (fieldNames.zip items)
  | _ => none

def name? (fields : Keyed Json) (key : String) : Option (Option String) :=
  match Keyed.get? fields key with
  | none | some .null => some none
  | some j => j.str?.map some

def names? (fields : Keyed Json) (key : String) : Option NameSet :=
  match Keyed.get? fields key with
  | none => some []
  | some j => j.strings?.map NameSet.ofList

/-- The request that a value in order describes; members that are not known do not count. -/
def ofJson? (j : Json) : Option Request := do
  let fields ← fieldsOf? j
  let moment ← (← Keyed.get? fields "timestamp").str?
  some
    { speaker := ← name? fields "speaker_id"
      location := ← name? fields "location_id"
      moment := ← Clock.moment? moment.toList
      modes := ← names? fields "manual_modes"
      state := ← match Keyed.get? fields "state" with
        | none => some []
        | some j => j.fields?
      occupants := ← names? fields "occupants" }

def unlessNone (key : String) : Option String → List (String × Json)
  | none => []
  | some s => [(key, .str s)]

def toJson (r : Request) : Json :=
  .obj <|
    unlessNone "speaker_id" r.speaker ++ unlessNone "location_id" r.location ++
      [ ("timestamp", .str r.moment.text),
        ("manual_modes", .ofStrings r.modes),
        ("state", .obj r.state),
        ("occupants", .ofStrings r.occupants) ]

end Request

end Household
