import Household.Text.Block
import Household.Text.Property.Hidden

/-! # Quoted text

Text between double quotes in which every character can be seen: quotes, backslashes and line ends
are escaped, and a character without a visible form is written as its number.
-/

set_option autoImplicit false

namespace Household.Text

def isHidden (c : Char) : Bool := inBlocks hiddenBlocks c.toNat

def visible (c : Char) : List Char :=
  match c with
  | '\x00' => ['\\', '0']
  | '\t' => ['\\', 't']
  | '\r' => ['\\', 'r']
  | '\n' => ['\\', 'n']
  | '\\' => ['\\', '\\']
  | '"' => ['\\', '"']
  | c =>
    if isHidden c then '\\' :: 'u' :: '\x7b' :: Nat.toDigits 16 c.toNat ++ ['\x7d'] else [c]

def quoted (s : String) : String := String.ofList ('"' :: s.toList.flatMap visible ++ ['"'])

example : quoted "a\"b\n'\u200b" = "\"a\\\"b\\n'\\u\x7b200b\x7d\"" := by decide +kernel

end Household.Text
