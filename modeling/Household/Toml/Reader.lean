import Household.Toml.Scalar

/-! # Reading TOML documents

A document is a sequence of lines: headers, keys with values, comments and empty lines. Each value
goes to the table that the last header opened.
-/

set_option autoImplicit false

namespace Household.Toml

mutual

/-- One value. `depth` is the number of brackets and braces still allowed. -/
def readValue? (fuel depth : Nat) (s : List Char) : Option (Value × List Char) :=
  match fuel with
  | 0 => none
  | fuel + 1 =>
    match s with
    | '[' :: rest =>
      match depth with
      | 0 => none
      | depth + 1 => (readItems? fuel depth rest).map fun (items, rest) => (.array items, rest)
    | '\x7b' :: rest =>
      match depth with
      | 0 => none
      | depth + 1 =>
        match skipSpace rest with
        | '\x7d' :: rest => some (.table .inline [], rest)
        | rest =>
          (readPairs? fuel depth [] rest).map fun (entries, rest) =>
            (.table .inline entries, rest)
    | _ => readScalar? s

def readItems? (fuel depth : Nat) (s : List Char) : Option (List Value × List Char) :=
  match fuel with
  | 0 => none
  | fuel + 1 => do
    match ← skipLines? (s.length + 1) s with
    | ']' :: rest => some ([], rest)
    | rest =>
      let (item, rest) ← readValue? fuel depth rest
      match ← skipLines? (rest.length + 1) rest with
      | ',' :: rest =>
        -- No item need follow this comma, unlike one between braces.
        let (items, rest) ← readItems? fuel depth rest
        some (item :: items, rest)
      | ']' :: rest => some ([item], rest)
      | _ => none

def readPairs? (fuel depth : Nat) (entries : Entries) (s : List Char) :
    Option (Entries × List Char) :=
  match fuel with
  | 0 => none
  | fuel + 1 => do
    let ((path, key), rest) ← readKey? s
    match rest with
    | '=' :: rest =>
      let (value, rest) ← readValue? fuel depth (skipSpace rest)
      let entries ← Entries.assign path key value .inline entries
      match skipSpace rest with
      | ',' :: rest => readPairs? fuel depth entries rest
      | '\x7d' :: rest => some (entries, rest)
      | _ => none
    | _ => none

end

structure Progress where
  root : Entries
  current : List String

def readHeader? (close : Nat) (s : List Char) : Option ((List String × String) × List Char) := do
  let (path, rest) ← readKey? s
  if (rest.take close).all (· = ']') && close ≤ rest.length then some (path, rest.drop close)
  else none

def readEntry? (p : Progress) (s : List Char) : Option (Progress × List Char) :=
  match s with
  | '[' :: '[' :: rest => do
    let ((parent, key), rest) ← readHeader? 2 rest
    some (⟨← p.root.openElement parent key, parent ++ [key]⟩, ← endLine? rest)
  | '[' :: rest => do
    let ((parent, key), rest) ← readHeader? 1 rest
    some (⟨← p.root.openTable parent key, parent ++ [key]⟩, ← endLine? rest)
  | _ => do
    let ((path, key), rest) ← readKey? s
    match rest with
    | '=' :: rest =>
      let (value, rest) ← readValue? (2 * rest.length + 2) (depthLimit - 1) (skipSpace rest)
      let root ← Entries.modifyAt false (Entries.assign path key value) p.current .header p.root
      some (⟨root, p.current⟩, ← endLine? rest)
    | _ => none

def readLines? : Nat → Progress → List Char → Option Progress
  | 0, p, s => if (skipSpace s).isEmpty then some p else none
  | fuel + 1, p, s =>
    match skipSpace s with
    | [] => some p
    | '#' :: rest =>
      match rest.dropWhile isTextChar with
      | [] => some p
      | rest => do readLines? fuel p (← lineFeed? rest)
    | '\n' :: rest => readLines? fuel p rest
    | '\r' :: rest => do readLines? fuel p (← lineFeed? ('\r' :: rest))
    | rest => do
      let (p, rest) ← readEntry? p rest
      readLines? fuel p rest

/-- The tables that a text spells; a byte-order mark in front is passed over. -/
def read? (s : List Char) : Option Entries :=
  let body := match s with
    | '\ufeff' :: rest => rest
    | _ => s
  (readLines? body.length ⟨[], []⟩ body).map (·.root)

end Household.Toml
