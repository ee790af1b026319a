import Household.Json.Reader
import Household.Request
import Household.Text.Split

/-! # Options that describe a request

On the command line a request is given by texts. The moment is read first, then the named states
in their order, and the first text that cannot be read is reported.
-/

set_option autoImplicit false

namespace Household.Command

open Household.Text

structure Options where
  speaker : Option String
  location : Option String
  moment : String
  modes : List String
  states : List String
  occupants : List String

inductive BadOption where
  | moment (text : String)
  | stateWithoutValue (text : String)
  | stateWithoutKey (text : String)
  deriving DecidableEq, Repr

def BadOption.message : BadOption → String
  | moment text => s!"invalid --at '{text}' (expected RFC 3339 or YYYY-MM-DDTHH:MM)"
  | stateWithoutValue text => s!"invalid --state '{text}' (expected KEY=VALUE)"
  | stateWithoutKey text => s!"invalid --state '{text}' (empty key)"

def readMoment (text : String) : Except BadOption Moment :=
  let text := trim text.toList
  match Clock.givenMoment? text with
  | some moment => .ok moment
  | none => .error (.moment (String.ofList text))

/-- A key and a value with `=` between them. A value that is no JSON stands for itself. -/
def readState (text : String) : Except BadOption (String × Json) :=
  match splitFirst? '=' text.toList with
  | none => .error (.stateWithoutValue text)
  | some (key, value) =>
    let key := trim key
    if key.isEmpty then .error (.stateWithoutKey text)
    else
      let value :=
        (Json.parse? (String.ofList (trim value))).getD (.str (String.ofList value))
      .ok (String.ofList key, value)

/-- Of several states under one key the last one counts. -/
def Options.request (o : Options) : Except BadOption Request := do
  let moment ← readMoment o.moment
  let states ← o.states.mapM readState
  return ⟨o.speaker, o.location, moment, .ofList o.modes, .ofList states, .ofList o.occupants⟩

end Household.Command
