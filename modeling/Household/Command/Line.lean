import Household.Command.Options

/-! # The command line

The words of a command line: the name of a command, and options with or without a value. A value
follows its option as a word of its own or after `=`.
-/

set_option autoImplicit false

namespace Household.Command

open Household.Text

inductive Flag where
  | document
  | speaker
  | location
  | moment
  | mode
  | state
  | occupant
  | draft
  | merged
  deriving DecidableEq, Repr

namespace Flag

def ofName? : String → Option Flag
  | "-c" | "--config" => some document
  | "-s" | "--speaker" => some speaker
  | "-l" | "--location" => some location
  | "--at" => some moment
  | "-m" | "--mode" => some mode
  | "--state" => some state
  | "-o" | "--occupant" => some occupant
  | "-t" | "--text" => some draft
  | "--merged" => some merged
  | _ => none

def takesValue (f : Flag) : Bool := f != merged

end Flag

inductive LineFault where
  | unknownOption (word : String)
  | missingValue (word : String)
  | unknownCommand (words : List String)
  | missingOption (name : String)
  deriving DecidableEq, Repr

def LineFault.message : LineFault → String
  | unknownOption word => s!"unexpected option '{word}'"
  | missingValue word => s!"a value is required for '{word}'"
  | unknownCommand words =>
    "expected one of the commands validate, resolve, transform and watch, got '" ++
      " ".intercalate words ++ "'"
  | missingOption name => s!"the option '{name}' is required"

structure Line where
  words : List String
  options : List (Flag × String)
  deriving DecidableEq, Repr

namespace Line

def addOption (flag : Flag) (value : String) (l : Line) : Line :=
  { l with options := (flag, value) :: l.options }

def addWord (word : String) (l : Line) : Line := { l with words := word :: l.words }

/-- Name and value of an option written as one word. -/
def joined? (word : String) : Option (String × String) :=
  (splitFirst? '=' word.toList).map fun (name, value) => (String.ofList name, String.ofList value)

def read : List String → Except LineFault Line
  | [] => .ok ⟨[], []⟩
  | word :: rest =>
    if word.toList.head? != some '-' then (read rest).map (addWord word)
    else
      match Flag.ofName? word with
      | some flag =>
        if flag.takesValue then
          match rest with
          | value :: rest => (read rest).map (addOption flag value)
          | [] => .error (.missingValue word)
        else (read rest).map (addOption flag "")
      | none =>
        match (joined? word).bind fun (name, value) => (Flag.ofName? name).map (·, value) with
        | some (flag, value) => (read rest).map (addOption flag value)
        | none => .error (.unknownOption word)

def values (l : Line) (flag : Flag) : List String :=
  (l.options.filter (·.1 = flag)).map (·.2)

def value? (l : Line) (flag : Flag) : Option String := (l.values flag).getLast?

def request (l : Line) : Except LineFault Options := do
  let some moment := l.value? .moment | throw (.missingOption "--at")
  return {
    speaker := l.value? .speaker
    location := l.value? .location
    moment := moment
    modes := l.values .mode
    states := l.values .state
    occupants := l.values .occupant }

end Line

inductive Task where
  | validate
  | resolve (options : Options) (merged : Bool)
  | transform (options : Options) (draft : String)
  | watch

def Task.ofLine (l : Line) : Except LineFault Task :=
  match l.words with
  | ["validate"] => .ok .validate
  | ["watch"] => .ok .watch
  | ["resolve"] => do return .resolve (← l.request) (l.value? .merged).isSome
  | ["transform"] => do
    let options ← l.request
    let some draft := l.value? .draft | throw (.missingOption "--text")
    return .transform options draft
  | words => .error (.unknownCommand words)

end Household.Command
