import Household.Json.Reader
import Household.Toml.Table

/-! # Gaps, keys and strings of TOML

Lines end in a line feed, with or without a carriage return before it. Strings are basic or literal,
on one line or on several; keys are bare or strings on one line, joined by points.
-/

set_option autoImplicit false

namespace Household.Toml

open Household.Text Household.Json

def isTabOrSpace (c : Char) : Bool := c = ' ' || c = '\t'

def skipSpace (s : List Char) : List Char := s.dropWhile isTabOrSpace

/-- What strings and comments hold within a line: tab, and everything but control characters. -/
def isTextChar (c : Char) : Bool := c = '\t' || (0x20 ≤ c.toNat && c.toNat ≠ 0x7f)

def lineFeed? : List Char → Option (List Char)
  | '\n' :: rest => some rest
  | '\r' :: '\n' :: rest => some rest
  | _ => none

def skipComment : List Char → List Char
  | '#' :: rest => rest.dropWhile isTextChar
  | s => s

def endLine? (s : List Char) : Option (List Char) :=
  match skipComment (skipSpace s) with
  | [] => some []
  | rest => lineFeed? rest

def skipLines? : Nat → List Char → Option (List Char)
  | 0, _ => none
  | fuel + 1, s =>
    match skipSpace s with
    | '#' :: rest => do skipLines? fuel (← lineFeed? (rest.dropWhile isTextChar))
    | '\n' :: rest => skipLines? fuel rest
    | '\r' :: rest => do skipLines? fuel (← lineFeed? ('\r' :: rest))
    | rest => some rest

def readCode? (count : Nat) (s : List Char) : Option (Char × List Char) := do
  let digits := s.take count
  if digits.length < count then none
  else
    let n ← hexValues? digits
    -- A surrogate is no character by itself, and has no partner here.
    if n < 0xD800 || (0xE000 ≤ n && n < 0x110000) then some (Char.ofNat n, s.drop count) else none

def readEscape? : List Char → Option (Char × List Char)
  | 'b' :: rest => some ('\x08', rest)
  | 't' :: rest => some ('\t', rest)
  | 'n' :: rest => some ('\n', rest)
  | 'f' :: rest => some ('\x0c', rest)
  | 'r' :: rest => some ('\r', rest)
  | '"' :: rest => some ('"', rest)
  | '\\' :: rest => some ('\\', rest)
  | 'u' :: rest => readCode? 4 rest
  | 'U' :: rest => readCode? 8 rest
  | _ => none

def readBasic? : Nat → List Char → Option (List Char × List Char)
  | 0, _ => none
  | fuel + 1, s =>
    match s with
    | [] => none
    | '"' :: rest => some ([], rest)
    | '\\' :: rest => do
      let (c, rest) ← readEscape? rest
      let (cs, rest) ← readBasic? fuel rest
      some (c :: cs, rest)
    | c :: rest =>
      if isTextChar c then (readBasic? fuel rest).map fun (cs, rest) => (c :: cs, rest) else none

def readLiteral? : List Char → Option (List Char × List Char)
  | [] => none
  | '\'' :: rest => some ([], rest)
  | c :: rest =>
    if isTextChar c then (readLiteral? rest).map fun (cs, rest) => (c :: cs, rest) else none

/-- A run of quotes in a string of several lines: three close it, after at most two that belong to
it. -/
def closing? (quote : Char) (s : List Char) : Option (List Char × List Char) :=
  let run := min (s.takeWhile (· == quote)).length 5
  if 3 ≤ run then some (List.replicate (run - 3) quote, s.drop run) else none

/-- After a backslash that ends its line, all blanks and line ends up to the next text. -/
def skipFolded : Nat → List Char → List Char
  | 0, s => s
  | fuel + 1, s =>
    match lineFeed? (skipSpace s) with
    | some rest => skipFolded fuel rest
    | none => skipSpace s

def readMultiBasic? : Nat → List Char → Option (List Char × List Char)
  | 0, _ => none
  | fuel + 1, s =>
    match s with
    | [] => none
    | '"' :: rest =>
      match closing? '"' s with
      | some done => some done
      | none => (readMultiBasic? fuel rest).map fun (cs, rest) => ('"' :: cs, rest)
    | '\\' :: rest =>
      match lineFeed? (skipSpace rest) with
      | some rest => readMultiBasic? fuel (skipFolded rest.length rest)
      | none => do
        let (c, rest) ← readEscape? rest
        let (cs, rest) ← readMultiBasic? fuel rest
        some (c :: cs, rest)
    | c :: rest =>
      match lineFeed? s with
      | some rest => (readMultiBasic? fuel rest).map fun (cs, rest) => ('\n' :: cs, rest)
      | none =>
        if isTextChar c then (readMultiBasic? fuel rest).map fun (cs, rest) => (c :: cs, rest)
        else none

def readMultiLiteral? : Nat → List Char → Option (List Char × List Char)
  | 0, _ => none
  | fuel + 1, s =>
    match s with
    | [] => none
    | '\'' :: rest =>
      match closing? '\'' s with
      | some done => some done
      | none => (readMultiLiteral? fuel rest).map fun (cs, rest) => ('\'' :: cs, rest)
    | c :: rest =>
      match lineFeed? s with
      | some rest => (readMultiLiteral? fuel rest).map fun (cs, rest) => ('\n' :: cs, rest)
      | none =>
        if isTextChar c then (readMultiLiteral? fuel rest).map fun (cs, rest) => (c :: cs, rest)
        else none

/-- A line end right after the opening quotes does not count. -/
def skipFirstLine (s : List Char) : List Char := (lineFeed? s).getD s

def readString? (s : List Char) : Option (String × List Char) :=
  let fuel := s.length + 1
  let found : Option (List Char × List Char) :=
    match s with
    | '"' :: '"' :: '"' :: rest => readMultiBasic? fuel (skipFirstLine rest)
    | '"' :: rest => readBasic? fuel rest
    | '\'' :: '\'' :: '\'' :: rest => readMultiLiteral? fuel (skipFirstLine rest)
    | '\'' :: rest => readLiteral? rest
    | _ => none
  found.map fun (cs, rest) => (String.ofList cs, rest)

def isBareKeyChar (c : Char) : Bool :=
  ('a' ≤ c && c ≤ 'z') || ('A' ≤ c && c ≤ 'Z') || isDigit c || c = '_' || c = '-'

def readSimpleKey? (s : List Char) : Option (String × List Char) :=
  match s with
  | '"' :: rest => (readBasic? (rest.length + 1) rest).map fun (cs, r) => (String.ofList cs, r)
  | '\'' :: rest => (readLiteral? rest).map fun (cs, r) => (String.ofList cs, r)
  | _ =>
    let name := s.takeWhile isBareKeyChar
    if name.isEmpty then none else some (String.ofList name, s.dropWhile isBareKeyChar)

def readKeys? : Nat → List Char → Option (List String × List Char)
  | 0, _ => none
  | fuel + 1, s => do
    let (key, rest) ← readSimpleKey? (skipSpace s)
    match skipSpace rest with
    | '.' :: rest =>
      let (keys, rest) ← readKeys? fuel rest
      some (key :: keys, rest)
    | rest => some ([key], rest)

/-- Nesting, and the parts of one key, stay below this. -/
def depthLimit : Nat := 80

def readKey? (s : List Char) : Option ((List String × String) × List Char) := do
  let (keys, rest) ← readKeys? (s.length + 1) s
  if depthLimit ≤ keys.length then none
  else some ((keys.dropLast, ← keys.getLast?), rest)

end Household.Toml
