import Household.Data.NameSet
import Household.Reply.Vocabulary

/-! # Content restrictions

Each category of content has masks, which cover whole words and hide them, and words that are
replaced by milder ones. The words that a household replaces itself come last.
-/

set_option autoImplicit false

namespace Household.Reply

open Household.Text

def redaction : String := "[filtered]"

inductive Endings where
  | any
  | oneOf (endings : List String)
  deriving DecidableEq, Repr

structure Mask where
  stem : String
  endings : Endings
  deriving DecidableEq, Repr

def Mask.covers (m : Mask) (word : List Char) : Bool :=
  let word := word.map asciiLower
  match m.endings with
  | .any => m.stem.toList.isPrefixOf word
  | .oneOf endings => endings.any fun e => word == m.stem.toList ++ e.toList

structure Category where
  name : String
  masks : List Mask
  words : List (String × String)
  deriving DecidableEq, Repr

def profanity : Category where
  name := "profanity"
  masks :=
    [ ⟨"damn", .oneOf ["", "ed", "it"]⟩,
      ⟨"hell", .oneOf [""]⟩,
      ⟨"crap", .oneOf ["", "py"]⟩,
      ⟨"shit", .any⟩,
      ⟨"fuck", .any⟩,
      ⟨"bitch", .any⟩,
      ⟨"bastard", .oneOf ["", "s"]⟩,
      ⟨"ass", .oneOf ["", "hole", "s", "holes"]⟩ ]
  words := [("stupid", "silly"), ("idiot", "silly goose"), ("shut up", "be quiet")]

def violence : Category where
  name := "violence"
  masks :=
    [ ⟨"kill", .oneOf ["", "s", "ed", "ing", "er"]⟩,
      ⟨"murder", .any⟩,
      ⟨"stab", .oneOf ["", "s", "bed", "bing"]⟩,
      ⟨"shoot", .oneOf ["", "s", "ing"]⟩,
      ⟨"blood", .oneOf ["", "y", "shed"]⟩,
      ⟨"gun", .oneOf ["", "s"]⟩,
      ⟨"weapon", .oneOf ["", "s"]⟩ ]
  words :=
    [("fight", "argument"), ("fighting", "arguing"), ("war", "conflict"), ("attack", "approach")]

def matureThemes : Category where
  name := "mature_themes"
  masks :=
    [ ⟨"sex", .any⟩,
      ⟨"nude", .any⟩,
      ⟨"drug", .oneOf ["", "s"]⟩,
      ⟨"drunk", .oneOf [""]⟩,
      ⟨"gambl", .any⟩,
      ⟨"suicid", .any⟩ ]
  words := [("beer", "drink"), ("wine", "drink"), ("alcohol", "grown-up drinks")]

def scaryContent : Category where
  name := "scary_content"
  masks :=
    [ ⟨"gor", .oneOf ["e", "y"]⟩,
      ⟨"corpse", .oneOf ["", "s"]⟩,
      ⟨"demon", .oneOf ["", "s"]⟩,
      ⟨"horror", .any⟩ ]
  words :=
    [ ("monster", "creature"),
      ("monsters", "creatures"),
      ("ghost", "friendly spirit"),
      ("nightmare", "bad dream"),
      ("scary", "surprising"),
      ("terrifying", "surprising") ]

def categories : List Category := [profanity, violence, matureThemes, scaryContent]

def category? (name : String) : Option Category := categories.find? (·.name == name)

/-- A whole word that `covers` covers, at its first character. -/
def findWord (covers : List Char → Bool) : Finder Unit := fun before text =>
  let word := text.takeWhile isWordChar
  if isWordAt before || word.isEmpty || !covers word then none
  else some ⟨(), word, text.drop word.length⟩

namespace Category

def covers (c : Category) (word : List Char) : Bool := c.masks.any (·.covers word)

def mask? (c : Category) (text : List Char) : Option Edit :=
  let ps := parts (findWord c.covers) text
  match (hits ps).length with
  | 0 => none
  | n =>
    let noun := if n = 1 then "term" else "terms"
    some ⟨rebuild (fun _ _ => redaction.toList) ps, [s!"masked {n} {c.name} {noun}"]⟩

def soften? (c : Category) (text : List Char) : Option Edit :=
  ((WordTable.ofPairs c.words).substitute? text).map fun (out, made) =>
    ⟨out, made.map (·.note "replaced")⟩

end Category

/-- One pass after the other, each on the text that the last one to change it left. Nothing comes
of it if no pass changes anything. -/
def runAll : List (List Char → Option Edit) → List Char → Option Edit
  | [], _ => none
  | pass :: passes, text =>
    match pass text with
    | none => runAll passes text
    | some first =>
      match runAll passes first.text with
      | none => some first
      | some later => some ⟨later.text, first.notes ++ later.notes⟩

/-- The passes for a set of categories; names of no category do not count. -/
def categoryPasses (restrictions : NameSet) : List (List Char → Option Edit) :=
  (restrictions.filterMap category?).flatMap fun c => [c.mask?, c.soften?]

def replaceWords? (words : Keyed String) (text : List Char) : Option Edit :=
  ((WordTable.ofPairs words).substitute? text).map fun (out, made) =>
    ⟨out, made.map (·.note "replaced")⟩

def filter? (restrictions : NameSet) (words : Keyed String) (text : List Char) : Option Edit :=
  runAll (categoryPasses restrictions ++ [replaceWords? words]) text

end Household.Reply
