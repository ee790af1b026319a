import Household.Decimal.Reading
import Household.Text.Space
import Household.Toml.Text

/-! # Numbers, dates and times of TOML

Underscores may stand between digits. Dates and times are checked against the calendar and kept as
text in one form: a `T` between them, a fraction without closing zeros, `Z` or a numeric offset.
-/

set_option autoImplicit false

namespace Household.Toml

open Household.Text Household.Decimal Household.Json

def digits? (count : Nat) (s : List Char) : Option (Nat × List Char) :=
  let ds := s.take count
  if ds.length = count && ds.all isDigit then some (digitsValue ds, s.drop count) else none

def daysInMonth (year month : Nat) : Nat :=
  if month = 2 then
    if year % 4 = 0 ∧ (year % 100 ≠ 0 ∨ year % 400 = 0) then 29 else 28
  else if month = 4 ∨ month = 6 ∨ month = 9 ∨ month = 11 then 30
  else 31

def padded (width n : Nat) : List Char :=
  let ds := Nat.toDigits 10 n
  List.replicate (width - ds.length) '0' ++ ds

def readDate? (s : List Char) : Option (List Char × List Char) := do
  let (year, rest) ← digits? 4 s
  match rest with
  | '-' :: rest =>
    let (month, rest) ← digits? 2 rest
    match rest with
    | '-' :: rest =>
      let (day, rest) ← digits? 2 rest
      if 1 ≤ month ∧ month ≤ 12 ∧ 1 ≤ day ∧ day ≤ daysInMonth year month then
        some (padded 4 year ++ '-' :: padded 2 month ++ '-' :: padded 2 day, rest)
      else none
    | _ => none
  | _ => none

/-- A fraction keeps nine digits, less the zeros at its end. -/
def fractionText (ds : List Char) : List Char :=
  match dropEndWhile (· = '0') (ds.take 9) with
  | [] => []
  | kept => '.' :: kept

def readTime? (s : List Char) : Option (List Char × List Char) := do
  let (hour, rest) ← digits? 2 s
  match rest with
  | ':' :: rest =>
    let (minute, rest) ← digits? 2 rest
    match rest with
    | ':' :: rest =>
      let (second, rest) ← digits? 2 rest
      if 24 ≤ hour ∨ 60 ≤ minute ∨ 61 ≤ second then none
      else
        let text := padded 2 hour ++ ':' :: padded 2 minute ++ ':' :: padded 2 second
        match rest with
        | '.' :: after =>
          let ds := after.takeWhile isDigit
          if ds.isEmpty then some (text, rest)
          else some (text ++ fractionText ds, after.dropWhile isDigit)
        | _ => some (text, rest)
    | _ => none
  | _ => none

def readOffset? (s : List Char) : Option (List Char × List Char) :=
  let numeric (sign : Char) (rest : List Char) : Option (List Char × List Char) := do
    let (hour, rest) ← digits? 2 rest
    match rest with
    | ':' :: rest =>
      let (minute, rest) ← digits? 2 rest
      if 24 ≤ hour ∨ 60 ≤ minute then none
      else
        let sign := if hour = 0 ∧ minute = 0 then '+' else sign
        some (sign :: padded 2 hour ++ ':' :: padded 2 minute, rest)
    | _ => none
  match s with
  | 'Z' :: rest | 'z' :: rest => some (['Z'], rest)
  | '+' :: rest => numeric '+' rest
  | '-' :: rest => numeric '-' rest
  | _ => some ([], s)

def readDatetime? (s : List Char) : Option (Value × List Char) :=
  let value (text : List Char) : Value := .datetime (String.ofList text)
  match readDate? s with
  | some (date, rest) =>
    match rest with
    | c :: after =>
      if c = 'T' ∨ c = 't' ∨ c = ' ' then
        match readTime? after with
        | some (time, rest) =>
          (readOffset? rest).map fun (offset, rest) =>
            (value (date ++ 'T' :: time ++ offset), rest)
        | none => some (value date, rest)
      else some (value date, rest)
    | [] => some (value date, rest)
  | none => (readTime? s).map fun (time, rest) => (value time, rest)

def readDigits? (isOne : Char → Bool) (s : List Char) : Option (List Char × List Char) :=
  match s with
  | c :: rest => if isOne c then (more rest).map fun (ds, rest) => (c :: ds, rest) else none
  | [] => none
where
  more : List Char → Option (List Char × List Char)
    | [] => some ([], [])
    | '_' :: c :: rest =>
      if isOne c then (more rest).map fun (ds, rest) => (c :: ds, rest) else none
    | c :: rest =>
      if isOne c then (more rest).map fun (ds, rest) => (c :: ds, rest)
      else if c = '_' then none
      else some ([], c :: rest)

/-- The whole part of a number: zero alone, or digits that start with another. -/
def readWhole? (s : List Char) : Option (List Char × List Char) :=
  match s with
  | '0' :: rest => some (['0'], rest)
  | _ => readDigits? isDigit s

def int? (n : Int) : Option Value :=
  if -two63 ≤ n ∧ n < two63 then some (.int n) else none

def readRadix? (isOne : Char → Bool) (base : Nat) (s : List Char) : Option (Value × List Char) := do
  let (ds, rest) ← readDigits? isOne s
  let n := ds.foldl (fun n d => n * base + (hexValue? d).getD 0) 0
  some (← int? n, rest)

def readPower? (s : List Char) : Option (Int × List Char) := do
  let (negative, rest) := readSign s
  let (ds, rest) ← readDigits? isDigit rest
  let n : Int := digitsValue ds
  some (if negative then -n else n, rest)

/-- Only a positive number may not grow beyond the largest one. -/
def float? (negative : Bool) (m : Nat) (e : Int) : Option Value :=
  let x := nearest negative m e
  if negative || isFinite x then some (.float x) else none

def readAfterWhole? (negative : Bool) (whole : List Char) (s : List Char) :
    Option (Value × List Char) :=
  match s with
  | '.' :: rest => do
    let (fraction, rest) ← readDigits? isDigit rest
    let (power, rest) ← match rest with
      | 'e' :: after | 'E' :: after => readPower? after
      | _ => some (0, rest)
    some (← float? negative (digitsValue (whole ++ fraction)) (power - fraction.length), rest)
  | 'e' :: rest | 'E' :: rest => do
    let (power, rest) ← readPower? rest
    some (← float? negative (digitsValue whole) power, rest)
  | _ => do
    let n : Int := digitsValue whole
    some (← int? (if negative then -n else n), s)

def readNumber? (s : List Char) : Option (Value × List Char) :=
  match s with
  | '0' :: 'x' :: rest => readRadix? (fun c => (hexValue? c).isSome) 16 rest
  | '0' :: 'o' :: rest => readRadix? (fun c => '0' ≤ c && c ≤ '7') 8 rest
  | '0' :: 'b' :: rest => readRadix? (fun c => c = '0' || c = '1') 2 rest
  | _ =>
    let (negative, body) := readSign s
    match body with
    | 'i' :: 'n' :: 'f' :: rest => some (.float (infinity negative), rest)
    | 'n' :: 'a' :: 'n' :: rest => some (.float nan, rest)
    | _ => do
      let (whole, rest) ← readWhole? body
      readAfterWhole? negative whole rest

def readScalar? (s : List Char) : Option (Value × List Char) :=
  match s with
  | 't' :: 'r' :: 'u' :: 'e' :: rest => some (.bool true, rest)
  | 'f' :: 'a' :: 'l' :: 's' :: 'e' :: rest => some (.bool false, rest)
  | '"' :: _ | '\'' :: _ => (readString? s).map fun (text, rest) => (.str text, rest)
  | _ => (readDatetime? s).or (readNumber? s)

end Household.Toml
