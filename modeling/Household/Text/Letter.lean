import Household.Text.Block
import Household.Text.Property.Alphabetic
import Household.Text.Property.Cased
import Household.Text.Property.CaseIgnorable
import Household.Text.Property.Numeric
import Household.Text.Property.Uppercase

/-! # Letters, numbers and capitals

Character classes over all scripts. The narrower class `isWordChar` of ASCII letters, digits and
the underscore decides where a word of a reply begins and ends.
-/

set_option autoImplicit false

namespace Household.Text

def isLetter (c : Char) : Bool := inBlocks alphabeticBlocks c.toNat

def isNumber (c : Char) : Bool := inBlocks numericBlocks c.toNat

def isCapital (c : Char) : Bool :=
  uppercaseRuns.any fun (first, last, step) => inRun first last step c.toNat

def isCased (c : Char) : Bool := inBlocks casedBlocks c.toNat

def isCaseIgnorable (c : Char) : Bool := inBlocks caseIgnorableBlocks c.toNat

def isDigit (c : Char) : Bool := '0' ≤ c && c ≤ '9'

/-- Letters, digits and the underscore of ASCII. -/
def isWordChar (c : Char) : Bool :=
  ('a' ≤ c && c ≤ 'z') || ('A' ≤ c && c ≤ 'Z') || isDigit c || c == '_'

example : isLetter 'é' ∧ isLetter 'ſ' ∧ ¬ isLetter '٣' ∧ isNumber '٣' := by decide

example : isCapital 'É' ∧ ¬ isCapital 'ß' ∧ isWordChar '_' ∧ ¬ isWordChar 'é' := by decide

end Household.Text
