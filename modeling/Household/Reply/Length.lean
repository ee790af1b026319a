import Household.Reply.Sentence

/-! # Length

A reply is cut after a number of words. The cut goes back to the end of a sentence if there is one
in the second half of what is kept; otherwise an ellipsis follows.
-/

set_option autoImplicit false

namespace Household.Reply

open Household.Text

def ellipsis : String := "..."

def beforeWord? (n : Nat) (inWord : Bool) : List Char → Option (List Char)
  | [] => none
  | c :: rest =>
    if isSpace c then (beforeWord? n false rest).map (c :: ·)
    else if inWord then (beforeWord? n true rest).map (c :: ·)
    else
      match n with
      | 0 => some []
      | n + 1 => (beforeWord? n true rest).map (c :: ·)

def firstWords? (n : Nat) (text : List Char) : Option (List Char) :=
  (beforeWord? n false text).map trim

def sentenceEnds (before : List Char) : List Piece → List (List Char)
  | [] => []
  | p :: rest =>
    let upTo := before ++ p.gap ++ p.sentence
    upTo :: sentenceEnds upTo rest

def lastTerminated? (text : List Char) : Option (List Char) :=
  ((sentenceEnds [] (pieces text)).filter isTerminated).getLast?

/-- Marks that are dropped before an ellipsis, as is white space. -/
def isLoose (c : Char) : Bool :=
  c = ',' || c = ';' || c = ':' || c = '-' || c = '—' || isSpace c

def withEllipsis (kept : List Char) : List Char :=
  let body := dropEndWhile isLoose kept
  (if body.isEmpty then kept else body) ++ ellipsis.toList

/-- The text cut to `limit` words, at least one; nothing if it fits. -/
def enforce? (limit : Nat) (text : List Char) : Option (List Char) :=
  (firstWords? (max limit 1) text).map fun kept =>
    match lastTerminated? kept with
    | some upTo => if byteSize kept / 2 < byteSize upTo then upTo else withEllipsis kept
    | none => withEllipsis kept

end Household.Reply
