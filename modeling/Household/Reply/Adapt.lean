import Household.Profile.Basic
import Household.Reply.Concept
import Household.Reply.Length
import Household.Reply.Style

/-! # Adapting a reply

A draft is brought into line with a profile in a fixed order: simpler words, sentences to avoid,
restricted content, style, and length last. A pass with nothing to do leaves the text as it is.
-/

set_option autoImplicit false

namespace Household.Reply

open Household.Text

structure Adapted where
  text : List Char
  notes : List String
  truncated : Bool
  wordCount : Nat
  deriving DecidableEq, Repr

def passes (p : Profile) : List (List Char → Option Edit) :=
  [ simplify? p.vocabularyLevel,
    avoid? (p.avoidConcepts ++ p.blockedTopics),
    filter? p.contentRestrictions p.wordReplacements,
    style? p.responseStyle ]

/-- A reply that came out blank is replaced, unless the draft was blank. -/
def refill (draft : List Char) (e : Edit) : Edit :=
  if isBlank e.text && !isBlank draft then
    ⟨fallbackSentence.toList, e.notes ++ ["empty result replaced with fallback"]⟩
  else e

def adapt (p : Profile) (draft : List Char) : Adapted :=
  let e := refill draft ((runAll (passes p) draft).getD ⟨draft, []⟩)
  match enforce? p.maxResponseLength e.text with
  | none => ⟨e.text, e.notes, false, wordCount e.text⟩
  | some out =>
    let note := s!"truncated from {wordCount e.text} to {wordCount out} words"
    ⟨out, e.notes ++ [note], true, wordCount out⟩

end Household.Reply
