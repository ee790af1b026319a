import Household.Text.Space
import Household.Text.Utf8

/-! # Sentences

A sentence ends after a run of terminators and closing marks that starts with a terminator and is
followed by white space or the end of the text. What is left at the end is a sentence of its own.
-/

set_option autoImplicit false

namespace Household.Reply

open Household.Text

def isTerminator (c : Char) : Bool := c = '.' || c = '!' || c = '?'

def isCloser (c : Char) : Bool :=
  c = '"' || c = '\'' || c = ')' || c = ']' || c = '”' || c = '’'

/-- The text up to the first place where a sentence ends, and the rest, which starts with white
space or is empty. `ended` says that only closing marks have come since the last terminator. -/
def cut? (ended : Bool) : List Char → Option (List Char × List Char)
  | [] => if ended then some ([], []) else none
  | c :: rest =>
    if ended && isSpace c then some ([], c :: rest)
    else
      (cut? (isTerminator c || (ended && isCloser c)) rest).map fun (before, after) =>
        (c :: before, after)

structure Piece where
  gap : List Char
  sentence : List Char
  deriving DecidableEq, Repr

/-- A text as sentences with gaps before them, and the white space at its end. Every sentence takes
at least one character, which `fuel` counts. -/
def piecesFrom : Nat → List Char → List Piece × List Char
  | 0, text => ([], text)
  | fuel + 1, text =>
    let gap := text.takeWhile isSpace
    match text.dropWhile isSpace with
    | [] => ([], gap)
    | body =>
      match cut? false body with
      | some (sentence, rest) =>
        let (later, tail) := piecesFrom fuel rest
        (⟨gap, sentence⟩ :: later, tail)
      | none =>
        let sentence := trimEnd body
        ([⟨gap, sentence⟩], body.drop sentence.length)

def pieces (text : List Char) : List Piece := (piecesFrom (text.length + 1) text).1

def sentences (text : List Char) : List (List Char) := (pieces text).map (·.sentence)

structure Span where
  start : Nat
  finish : Nat
  deriving DecidableEq, Repr

def spansFrom (start : Nat) : List Piece → List Span
  | [] => []
  | p :: rest =>
    let first := start + byteSize p.gap
    let last := first + byteSize p.sentence
    ⟨first, last⟩ :: spansFrom last rest

def spans (text : List Char) : List Span := spansFrom 0 (pieces text)

def isTerminated (text : List Char) : Bool :=
  (dropEndWhile isCloser text).getLast?.any isTerminator

end Household.Reply
