import Household.Reply.Restriction
import Household.Reply.Sentence
import Household.Text.Split

/-! # Style

A brief reply loses its filler words, a playful one ends its first sentence on an exclamation mark,
and a formal one writes contractions in full.
-/

set_option autoImplicit false

namespace Household.Reply

open Household.Text

def fillers : List String :=
  [ "basically", "actually", "literally", "honestly", "really", "just", "you know", "i mean",
    "kind of", "sort of" ]

def contractions : List (String × String) :=
  [ ("aren't", "are not"),
    ("can't", "cannot"),
    ("couldn't", "could not"),
    ("didn't", "did not"),
    ("doesn't", "does not"),
    ("don't", "do not"),
    ("hasn't", "has not"),
    ("haven't", "have not"),
    ("i'll", "I will"),
    ("i'm", "I am"),
    ("i've", "I have"),
    ("isn't", "is not"),
    ("it's", "it is"),
    ("let's", "let us"),
    ("shouldn't", "should not"),
    ("that's", "that is"),
    ("there's", "there is"),
    ("they're", "they are"),
    ("wasn't", "was not"),
    ("we're", "we are"),
    ("won't", "will not"),
    ("wouldn't", "would not"),
    ("you'll", "you will"),
    ("you're", "you are"),
    ("you've", "you have"),
    ("what's", "what is") ]

def findFiller : Finder Unit := fun before text =>
  fillers.findSome? fun filler =>
    match matchPhrase sameLetter filler.toList before text with
    | some (found, ',' :: rest) => some ⟨(), found ++ [','], rest⟩
    | some (found, rest) => some ⟨(), found, rest⟩
    | none => none

/-- The text without its fillers. `last` is the last visible character so far, and `raise` says that
a filler with a capital at the start of a sentence waits to hand it on. -/
def dropFillers (last : Option Char) (raise : Bool) : List (Part Unit) → List Char
  | [] => []
  | .plain c :: rest =>
    if isSpace c then c :: dropFillers last raise rest
    else if raise then upperForm c ++ dropFillers ((upperForm c).getLast?.or last) false rest
    else c :: dropFillers (some c) false rest
  | .found _ filler :: rest =>
    dropFillers last (raise || (last.all isTerminator && filler.head?.any isCapital)) rest

def isTabOrSpace (c : Char) : Bool := c = ' ' || c = '\t'

def collapseBlanks (afterBlank : Bool) : List Char → List Char
  | [] => []
  | c :: rest =>
    if !isTabOrSpace c then c :: collapseBlanks false rest
    else if afterBlank then collapseBlanks true rest
    else if rest.head?.any isTabOrSpace then ' ' :: collapseBlanks true rest
    else c :: collapseBlanks true rest

def isPunctuation (c : Char) : Bool :=
  c = ',' || c = '.' || c = '!' || c = '?' || c = ';' || c = ':'

def closeUp : List Char → List Char
  | [] => []
  | c :: rest =>
    if isTabOrSpace c && (rest.dropWhile isTabOrSpace).head?.any isPunctuation then closeUp rest
    else c :: closeUp rest

/-- Commas before a terminator are dropped, with the blanks between. -/
def dropCommas (afterComma : Bool) : List Char → List Char
  | [] => []
  | c :: rest =>
    if c = ',' then
      let next := (rest.dropWhile (· = ',')).dropWhile isTabOrSpace
      if next.head?.any isTerminator then dropCommas true rest else c :: dropCommas false rest
    else if afterComma && isTabOrSpace c then dropCommas true rest
    else c :: dropCommas false rest

/-- Every line without white space around it, and no empty lines at either end. -/
def trimLines (text : List Char) : List Char :=
  trim (join ['\n'] ((splitAt '\n' text).map trim))

def tidy (text : List Char) : List Char :=
  trimLines (dropCommas false (closeUp (collapseBlanks false text)))

def stripFillers? (text : List Char) : Option (List Char × Nat) :=
  let ps := parts findFiller text
  match (hits ps).length with
  | 0 => none
  | n => some (tidy (dropFillers none false ps), n)

def exclaim? (text : List Char) : Option (List Char) :=
  match pieces text with
  | [] => none
  | p :: _ =>
    let body := dropEndWhile (!isTerminator ·) p.sentence
    match body.reverse with
    | '.' :: before =>
      if before.head? = some '.' then none
      else some (p.gap ++ before.reverse ++ '!' :: text.drop (p.gap.length + body.length))
    | _ => none

def expand? (text : List Char) : Option Edit :=
  ((WordTable.ofPairs contractions).substitute? text).map fun (out, made) =>
    ⟨out, made.map (·.note "expanded")⟩

def style? (style : ResponseStyle) (text : List Char) : Option Edit :=
  match style with
  | .brief =>
    (stripFillers? text).map fun (out, n) =>
      let noun := if n = 1 then "word" else "words"
      ⟨out, [s!"removed {n} filler {noun} for brief style"]⟩
  | .playful =>
    (exclaim? text).map fun out => ⟨out, ["ended first sentence with '!' for playful style"]⟩
  | .formal => expand? text
  | .conversational | .detailed => none

end Household.Reply
