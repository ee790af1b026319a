import Household.Data.Keyed
import Household.Reply.Phrase
import Household.Text.Space
import Household.Text.Utf8

/-! # Tables of words

A table says what stands in place of certain words and phrases. They are replaced in one pass from
left to right, the longest at a place first, and what is put in is not looked at again. Case and
the form of apostrophes do not matter, and a replacement takes over the capitals. A table may hold
any number of words of any length; none is passed over for its size.
-/

set_option autoImplicit false

namespace Household.Reply

open Household.Text

def straighten (c : Char) : Char := if c = '’' then '\'' else c

def normalWord (word : List Char) : List Char := (lowercase word).map straighten

/-- A key stands for its letters in any ASCII case, and its apostrophes for either form. -/
def sameInTable (k c : Char) : Bool := if k = '\'' then straighten c = '\'' else sameLetter k c

structure WordEntry where
  word : List Char
  replacement : String
  deriving DecidableEq, Repr

/-- Entries in the order in which they are tried: longer words first, equally long ones by their
characters. -/
abbrev WordTable := List WordEntry

namespace WordTable

def longerFirst (a b : WordEntry) : Bool := byteSize b.word ≤ byteSize a.word

/-- Blank words do not count, and of several entries for one word the last does. -/
def ofPairs (pairs : List (String × String)) : WordTable :=
  let kept := pairs.filter fun pair => !isBlank pair.1.toList
  let keyed := Keyed.ofList <| kept.map fun pair =>
    (String.ofList (normalWord (trim pair.1.toList)), pair.2)
  (keyed.map fun entry => ⟨entry.1.toList, entry.2⟩).mergeSort longerFirst

def find (table : WordTable) : Finder WordEntry := fun before text =>
  table.findSome? fun entry =>
    (matchPhrase sameInTable entry.word before text).map fun (found, rest) => ⟨entry, found, rest⟩

def lookUp? (table : WordTable) (word : List Char) : Option WordEntry :=
  table.find? (·.word == normalWord word)

end WordTable

def isShouted (text : List Char) : Bool :=
  let letters := text.filter isLetter
  1 < letters.length && letters.all isCapital

def matchCase (found replacement : List Char) : List Char :=
  if isShouted found then uppercase replacement
  else if found.head?.any isCapital then capitalize replacement
  else replacement

structure Change where
  word : String
  replacement : String
  deriving DecidableEq, Repr

def Change.ofEntry (e : WordEntry) : Change := ⟨String.ofList e.word, e.replacement⟩

def changes (entries : List WordEntry) : List Change :=
  (entries.foldl (fun seen e => if e ∈ seen then seen else e :: seen) []).reverse.map .ofEntry

namespace WordTable

/-- What stands in place of a word, which is the word itself if its form leads to no entry. -/
def replace (table : WordTable) (found : List Char) : List Char :=
  match table.lookUp? found with
  | some e => matchCase found e.replacement.toList
  | none => found

def substitute? (table : WordTable) (text : List Char) : Option (List Char × List Change) :=
  let ps := parts table.find text
  match hits ps with
  | [] => none
  | found =>
    -- The entry is looked up by the form of what was found, not taken from the search.
    some (rebuild (fun _ t => table.replace t) ps,
      changes (found.filterMap fun hit => table.lookUp? hit.2))

end WordTable

end Household.Reply
