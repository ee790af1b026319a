import Household.Decimal.Written
import Household.Json.Basic

/-! # Writing JSON

The compact form without white space, and the form set out over lines with two blanks a level.
-/

set_option autoImplicit false

namespace Household.Json

open Household.Decimal

def hexDigit (n : Nat) : Char := Nat.digitChar n

def escape (c : Char) : List Char :=
  match c with
  | '"' => ['\\', '"']
  | '\\' => ['\\', '\\']
  | '\n' => ['\\', 'n']
  | '\r' => ['\\', 'r']
  | '\t' => ['\\', 't']
  | '\x08' => ['\\', 'b']
  | '\x0c' => ['\\', 'f']
  | c =>
    if c.toNat < 0x20 then
      ['\\', 'u', '0', '0', hexDigit (c.toNat / 16), hexDigit (c.toNat % 16)]
    else [c]

def quote (s : String) : String :=
  String.ofList ('"' :: s.toList.flatMap escape ++ ['"'])

/-- A number that is none, or infinite, has no form in JSON. -/
def floatText (x : Float) : String :=
  if isFinite x then write .document x else "null"

def leaf : Json → String
  | .null => "null"
  | .bool true => "true"
  | .bool false => "false"
  | .int n => toString n
  | .float x => floatText x
  | .str s => quote s
  | .arr _ => "[]"
  | .obj _ => "\x7b\x7d"

mutual

def compact : Json → String
  | .arr items => "[" ++ compactItems items ++ "]"
  | .obj fields => "\x7b" ++ compactFields fields ++ "\x7d"
  | j => leaf j

def compactItems : List Json → String
  | [] => ""
  | [j] => compact j
  | j :: rest => compact j ++ "," ++ compactItems rest

def compactFields : List (String × Json) → String
  | [] => ""
  | [(name, j)] => quote name ++ ":" ++ compact j
  | (name, j) :: rest => quote name ++ ":" ++ compact j ++ "," ++ compactFields rest

end

def newline (level : Nat) : String := String.ofList ('\n' :: List.replicate (2 * level) ' ')

mutual

def prettyAt (level : Nat) : Json → String
  | .arr (j :: rest) =>
    "[" ++ newline (level + 1) ++ prettyAt (level + 1) j ++ prettyItems (level + 1) rest ++
      newline level ++ "]"
  | .obj ((name, j) :: rest) =>
    "\x7b" ++ newline (level + 1) ++ quote name ++ ": " ++ prettyAt (level + 1) j ++
      prettyFields (level + 1) rest ++ newline level ++ "\x7d"
  | j => leaf j

def prettyItems (level : Nat) : List Json → String
  | [] => ""
  | j :: rest => "," ++ newline level ++ prettyAt level j ++ prettyItems level rest

def prettyFields (level : Nat) : List (String × Json) → String
  | [] => ""
  | (name, j) :: rest =>
    "," ++ newline level ++ quote name ++ ": " ++ prettyAt level j ++ prettyFields level rest

end

def pretty (j : Json) : String := prettyAt 0 j

end Household.Json
