import Household.Reply.Phrase
import Household.Reply.Sentence
import Household.Reply.Vocabulary

/-! # Concepts to avoid

Sentences that mention an avoided concept are dropped whole. Sentences that come to stand side by
side are joined by the first of the gaps between them that has the most line breaks. No concept is
passed over for its length.
-/

set_option autoImplicit false

namespace Household.Reply

open Household.Text

def fallbackSentence : String := "Let's talk about something else."

/-- Concepts without the white space around them; blank ones do not count. -/
def usableConcepts (concepts : List String) : List (List Char) :=
  (concepts.map fun c => trim c.toList).filter (· ≠ [])

def mentioned? (concepts : List (List Char)) (sentence : List Char) : Option (List Char) :=
  concepts.find? (mentions · sentence)

def lineBreaks (gap : List Char) : Nat := gap.count '\n'

def widest : List (List Char) → List Char
  | [] => [' ']
  | gap :: gaps => gaps.foldl (fun best g => if lineBreaks best < lineBreaks g then g else best) gap

/-- The sentences that are kept, joined; `gaps` are those passed since the last kept sentence. -/
def joinKept (keep : List Char → Bool) : Option (List (List Char)) → List Piece → List Char
  | _, [] => []
  | none, p :: rest =>
    if keep p.sentence then p.sentence ++ joinKept keep (some []) rest else joinKept keep none rest
  | some gaps, p :: rest =>
    let gaps := gaps ++ [p.gap]
    if keep p.sentence then widest gaps ++ p.sentence ++ joinKept keep (some []) rest
    else joinKept keep (some gaps) rest

def mentionNote (concept : List Char) : String :=
  "removed sentence mentioning '" ++ String.ofList concept ++ "'"

def avoid? (concepts : List String) (text : List Char) : Option Edit :=
  let concepts := usableConcepts concepts
  let ps := pieces text
  match ps.filterMap fun p => mentioned? concepts p.sentence with
  | [] => none
  | found =>
    let notes := found.map mentionNote
    match joinKept (fun s => (mentioned? concepts s).isNone) none ps with
    | [] => some ⟨fallbackSentence.toList, notes ++ ["all sentences removed; used fallback"]⟩
    | out => some ⟨out, notes⟩

end Household.Reply
