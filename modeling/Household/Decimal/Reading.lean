import Household.Decimal.Binary
import Household.Text.Case

/-! # Reading numbers

A numeral is a sign, digits with at most one point, and a power of ten; the names of infinity and
of the number that is none are accepted in any ASCII case. At least one digit has to be there.
-/

set_option autoImplicit false

namespace Household.Decimal

open Household.Text

def digitValue (c : Char) : Nat := c.toNat - '0'.toNat

def digitsValue (ds : List Char) : Nat := ds.foldl (fun n d => n * 10 + digitValue d) 0

def readSign : List Char → Bool × List Char
  | '-' :: rest => (true, rest)
  | '+' :: rest => (false, rest)
  | s => (false, s)

/-- The power of ten at the end of a numeral, none counting as zero. -/
def readPower? : List Char → Option Int
  | [] => some 0
  | c :: rest =>
    if c = 'e' ∨ c = 'E' then
      let (negative, ds) := readSign rest
      if ds.isEmpty || !ds.all isDigit then none
      else some (if negative then -(digitsValue ds : Int) else digitsValue ds)
    else none

def readUnsigned? (negative : Bool) (s : List Char) : Option Float :=
  let leading := s.takeWhile isDigit
  let rest := s.dropWhile isDigit
  let (fraction, rest) :=
    match rest with
    | '.' :: after => (after.takeWhile isDigit, after.dropWhile isDigit)
    | _ => ([], rest)
  if leading.isEmpty && fraction.isEmpty then none
  else
    (readPower? rest).map fun power =>
      nearest negative (digitsValue (leading ++ fraction)) (power - fraction.length)

def infinity (negative : Bool) : Float := withSign negative infinityBits

def nan : Float := withSign false (infinityBits + two52 / 2)

def read? (s : List Char) : Option Float :=
  let (negative, body) := readSign s
  let name := body.map asciiLower
  if name = "inf".toList ∨ name = "infinity".toList then some (infinity negative)
  else if name = "nan".toList then some nan
  else readUnsigned? negative body

/-- A whole number without sign or with a plus, below `2 ^ 64`. -/
def readNat64? (s : List Char) : Option Nat :=
  let body := match s with
    | '+' :: rest => rest
    | _ => s
  if body.isEmpty || !body.all isDigit then none
  else
    let n := digitsValue body
    if n < 2 * two63 then some n else none

example : (read? "5.".toList).isSome ∧ (read? ".5".toList).isSome ∧ (read? ".".toList) = none := by
  decide +kernel

end Household.Decimal
