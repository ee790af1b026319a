import Household.Json.Number

/-! # Reading JSON

A value, white space around it, and nothing else. Arrays and objects nest at most 127 deep.
-/

set_option autoImplicit false

namespace Household.Json

open Household.Text Household.Decimal

def isGap (c : Char) : Bool := c = ' ' || c = '\n' || c = '\t' || c = '\r'

def skipGap (s : List Char) : List Char := s.dropWhile isGap

def hexValue? (c : Char) : Option Nat :=
  if isDigit c then some (c.toNat - 48)
  else if 'a' ≤ c && c ≤ 'f' then some (c.toNat - 87)
  else if 'A' ≤ c && c ≤ 'F' then some (c.toNat - 55)
  else none

def hexValues? (ds : List Char) : Option Nat :=
  ds.foldlM (fun n d => (hexValue? d).map (n * 16 + ·)) 0

def unit? : List Char → Option (Nat × List Char)
  | a :: b :: c :: d :: rest => (hexValues? [a, b, c, d]).map (·, rest)
  | _ => none

/-- The character after the `u` of an escape. A leading surrogate needs its partner. -/
def readUnit? (s : List Char) : Option (Char × List Char) := do
  let (n, rest) ← unit? s
  if 0xD800 ≤ n && n < 0xDC00 then
    match rest with
    | '\\' :: 'u' :: rest =>
      let (m, rest) ← unit? rest
      if 0xDC00 ≤ m && m < 0xE000 then
        some (Char.ofNat (0x10000 + (n - 0xD800) * 0x400 + (m - 0xDC00)), rest)
      else none
    | _ => none
  else if 0xDC00 ≤ n && n < 0xE000 then none
  else some (Char.ofNat n, rest)

def plainEscape? : Char → Option Char
  | '"' => some '"'
  | '\\' => some '\\'
  | '/' => some '/'
  | 'b' => some '\x08'
  | 'f' => some '\x0c'
  | 'n' => some '\n'
  | 'r' => some '\r'
  | 't' => some '\t'
  | _ => none

def readChars? : Nat → List Char → Option (List Char × List Char)
  | 0, _ => none
  | fuel + 1, s =>
    match s with
    | [] => none
    | '"' :: rest => some ([], rest)
    | '\\' :: 'u' :: rest => do
      let (c, rest) ← readUnit? rest
      let (cs, rest) ← readChars? fuel rest
      some (c :: cs, rest)
    | '\\' :: e :: rest => do
      let c ← plainEscape? e
      let (cs, rest) ← readChars? fuel rest
      some (c :: cs, rest)
    | c :: rest =>
      if c.toNat < 0x20 || c = '\\' then none
      else do
        let (cs, rest) ← readChars? fuel rest
        some (c :: cs, rest)

def readString? (s : List Char) : Option (String × List Char) :=
  (readChars? (s.length + 1) s).map fun (cs, rest) => (String.ofList cs, rest)

mutual

/-- One value after white space. `depth` is the number of levels still allowed. -/
def readValue? (fuel depth : Nat) (s : List Char) : Option (Json × List Char) :=
  match fuel with
  | 0 => none
  | fuel + 1 =>
    match skipGap s with
    | 'n' :: 'u' :: 'l' :: 'l' :: rest => some (.null, rest)
    | 't' :: 'r' :: 'u' :: 'e' :: rest => some (.bool true, rest)
    | 'f' :: 'a' :: 'l' :: 's' :: 'e' :: rest => some (.bool false, rest)
    | '"' :: rest => (readString? rest).map fun (s, rest) => (.str s, rest)
    | '[' :: rest =>
      match depth with
      | 0 => none
      | depth + 1 =>
        match skipGap rest with
        | ']' :: rest => some (.arr [], rest)
        | rest => (readItems? fuel depth rest).map fun (items, rest) => (.arr items, rest)
    | '{' :: rest =>
      match depth with
      | 0 => none
      | depth + 1 =>
        match skipGap rest with
        | '}' :: rest => some (.obj [], rest)
        | rest => (readFields? fuel depth rest).map fun (fields, rest) => (.obj fields, rest)
    | s => readNumber? s

def readItems? (fuel depth : Nat) (s : List Char) : Option (List Json × List Char) :=
  match fuel with
  | 0 => none
  | fuel + 1 => do
    let (item, rest) ← readValue? fuel depth s
    match skipGap rest with
    | ']' :: rest => some ([item], rest)
    | ',' :: rest =>
      let (items, rest) ← readItems? fuel depth rest
      some (item :: items, rest)
    | _ => none

def readFields? (fuel depth : Nat) (s : List Char) : Option (List (String × Json) × List Char) :=
  match fuel with
  | 0 => none
  | fuel + 1 =>
    match skipGap s with
    | '"' :: rest => do
      let (name, rest) ← readString? rest
      match skipGap rest with
      | ':' :: rest =>
        let (value, rest) ← readValue? fuel depth rest
        match skipGap rest with
        | '}' :: rest => some ([(name, value)], rest)
        | ',' :: rest =>
          let (fields, rest) ← readFields? fuel depth rest
          some ((name, value) :: fields, rest)
        | _ => none
      | _ => none
    | _ => none

end

def maxDepth : Nat := 127

def read? (s : List Char) : Option Json :=
  match readValue? (2 * s.length + 2) maxDepth s with
  | some (j, rest) => if (skipGap rest).isEmpty then some j else none
  | none => none

/-- The value that a text spells, its objects in order. -/
def parse? (s : String) : Option Json := (read? s.toList).map normal

end Household.Json
