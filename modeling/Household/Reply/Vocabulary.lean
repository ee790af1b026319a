import Household.Reply.WordTable
import Household.Setting.Choice

/-! # Vocabulary

Simpler words for each level. A level uses the words of all levels that are less strict; where two
of them list a word, the stricter one decides.
-/

set_option autoImplicit false

namespace Household.Reply

open Household.Text

def simpleWords : List (String × String) :=
  [ ("additional", "more"),
    ("approximately", "about"),
    ("assist", "help"),
    ("commence", "start"),
    ("demonstrate", "show"),
    ("illuminate", "turn on"),
    ("indicate", "show"),
    ("inquire", "ask"),
    ("numerous", "many"),
    ("obtain", "get"),
    ("purchase", "buy"),
    ("require", "need"),
    ("residence", "home"),
    ("sufficient", "enough"),
    ("terminate", "end"),
    ("utilize", "use") ]

def verySimpleWords : List (String × String) :=
  [ ("appropriate", "right"),
    ("attempt", "try"),
    ("automobile", "car"),
    ("consume", "eat"),
    ("currently", "now"),
    ("difficult", "hard"),
    ("enormous", "huge"),
    ("frequently", "often"),
    ("however", "but"),
    ("immediately", "right now"),
    ("precipitation", "rain"),
    ("temperature", "how warm it is"),
    ("therefore", "so") ]

def toddlerWords : List (String × String) :=
  [ ("beverage", "drink"),
    ("delicious", "yummy"),
    ("enormous", "really big"),
    ("frightened", "scared"),
    ("large", "big"),
    ("purchase", "get"),
    ("small", "little"),
    ("stomach", "tummy"),
    ("vehicle", "car") ]

def ownWords : VocabularyLevel → List (String × String)
  | .adult => []
  | .simple => simpleWords
  | .verySimple => verySimpleWords
  | .toddler => toddlerWords

def levelWords (level : VocabularyLevel) : Keyed String :=
  Keyed.ofList <|
    ((Choice.all : List VocabularyLevel).filter (·.strictness ≤ level.strictness)).flatMap ownWords

/-- What a pass made of a text, and its notes on what it did. -/
structure Edit where
  text : List Char
  notes : List String
  deriving DecidableEq, Repr

def Change.note (verb : String) (c : Change) : String :=
  s!"{verb} '{c.word}' → '{c.replacement}'"

def simplify? (level : VocabularyLevel) (text : List Char) : Option Edit :=
  ((WordTable.ofPairs (levelWords level)).substitute? text).map fun (out, made) =>
    ⟨out, made.map (·.note "simplified")⟩

end Household.Reply
