import Household.Text.Case

/-! # Words and phrases in a text

A phrase stands at a place of a text if it is there letter by letter, up to the case of ASCII
letters, and a word boundary lies on either side. A word boundary lies between a word character and
anything else.
-/

set_option autoImplicit false

namespace Household.Reply

open Household.Text

def isWordAt : Option Char → Bool
  | some c => isWordChar c
  | none => false

def isBoundary (before after : Option Char) : Bool := isWordAt before != isWordAt after

/-- The characters of a text that a phrase takes up from its start on, compared one by one with
`same`, and what follows them. -/
def matchChars (same : Char → Char → Bool) : List Char → List Char → Option (List Char × List Char)
  | [], text => some ([], text)
  | _ :: _, [] => none
  | k :: phrase, c :: text =>
    if same k c then (matchChars same phrase text).map fun (found, rest) => (c :: found, rest)
    else none

def sameLetter (k c : Char) : Bool := asciiLower k = asciiLower c

def matchPhrase (same : Char → Char → Bool) (phrase : List Char) (before : Option Char)
    (text : List Char) : Option (List Char × List Char) :=
  match matchChars same phrase text with
  | some (found, rest) =>
    let last := found.getLast?.or before
    if isBoundary before text.head? && isBoundary last rest.head? then some (found, rest) else none
  | none => none

def occursAfter (phrase : List Char) (before : Option Char) : List Char → Bool
  | [] => (matchPhrase sameLetter phrase before []).isSome
  | c :: rest =>
    (matchPhrase sameLetter phrase before (c :: rest)).isSome || occursAfter phrase (some c) rest

def mentions (phrase text : List Char) : Bool := occursAfter phrase none text

structure Hit (α : Type) where
  label : α
  found : List Char
  rest : List Char

inductive Part (α : Type) where
  | plain (c : Char)
  | found (label : α) (text : List Char)

/-- Looks for something right after the character given, if there is one. -/
abbrev Finder (α : Type) := Option Char → List Char → Option (Hit α)

/-- From left to right, the places where something is found; a place is left at its end. What is
found is not empty, so `fuel` counts the characters. -/
def scan {α : Type} (find : Finder α) : Nat → Option Char → List Char → List (Part α)
  | _, _, [] => []
  | 0, _, text => text.map .plain
  | fuel + 1, before, c :: rest =>
    match find before (c :: rest) with
    | some hit => .found hit.label hit.found :: scan find fuel (hit.found.getLast?.or before) hit.rest
    | none => .plain c :: scan find fuel (some c) rest

def parts {α : Type} (find : Finder α) (text : List Char) : List (Part α) :=
  scan find text.length none text

def hits {α : Type} (ps : List (Part α)) : List (α × List Char) :=
  ps.filterMap fun
    | .plain _ => none
    | .found label text => some (label, text)

def rebuild {α : Type} (replace : α → List Char → List Char) (ps : List (Part α)) : List Char :=
  ps.flatMap fun
    | .plain c => [c]
    | .found label text => replace label text

end Household.Reply
