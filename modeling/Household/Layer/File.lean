import Household.Layer.Build
import Household.Text.Split

/-! # Documents in files

The format of a file follows from the extension of its name; a name without extension stands for
TOML.
-/

set_option autoImplicit false

namespace Household

open Household.Text

def fileName? (path : List Char) : Option (List Char) :=
  let parts := (splitAt '/' path).filter fun part => part ≠ [] ∧ part ≠ ['.']
  match parts.getLast? with
  -- A path that ends in its parent directory has no last part.
  | some name => if name = ['.', '.'] then none else some name
  | none => none

/-- What follows the last point of a name, unless nothing comes before that point. -/
def extension? (name : List Char) : Option (List Char) :=
  let ending := (name.reverse.takeWhile (· ≠ '.')).reverse
  let before := name.length - ending.length
  if 2 ≤ before then some ending else none

namespace Document.Format

def ofPath (path : String) : Checked Document.Format :=
  match (fileName? path.toList).bind extension? with
  | none => .ok .toml
  | some ending =>
    if sameLetters ending "toml".toList then .ok .toml
    else if sameLetters ending "json".toList then .ok .json
    else .error (.unknownFormat path (String.ofList ending))

end Document.Format

namespace Layers

def load (path : String) (content : Option (List UInt8)) : Checked Layers := do
  let format ← Document.Format.ofPath path
  match content with
  | none => .error (.unreadable path .missing)
  | some bytes =>
    match decode bytes with
    | .error _ => .error (.unreadable path .notText)
    | .ok text => ofText format path text

end Layers

end Household
