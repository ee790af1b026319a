import Household.Decimal.Reading
import Household.Json.Basic

/-! # Reading JSON numbers

The digits of a number are gathered in 64 bits. A whole number that fits is exact; any other number
is the significand scaled once by a power of ten, in binary64 arithmetic. Digits of a fraction
beyond 64 bits are passed over, those of a whole number raise the exponent.
-/

set_option autoImplicit false

namespace Household.Json

open Household.Text Household.Decimal

def maxSignificand : Nat := 2 * two63 - 1

def maxExponent : Nat := 0x7fffffff

/-- Digits taken up to the first that would overflow; the number of those taken, and the rest. -/
def gather (bound : Nat) : Nat → List Char → Nat × Nat × List Char
  | n, [] => (n, 0, [])
  | n, c :: rest =>
    if isDigit c && n * 10 + digitValue c ≤ bound then
      let (n, count, rest) := gather bound (n * 10 + digitValue c) rest
      (n, count + 1, rest)
    else (n, 0, c :: rest)

/-- Scales by `10 ^ exponent`. Below `-308` the scale is applied in steps; past the largest number
there is no result. -/
def scale? : Nat → Float → Int → Option Float
  | 0, x, _ => some x
  | steps + 1, x, exponent =>
    if exponent.natAbs ≤ 308 then
      let power := nearest false 1 exponent.natAbs
      if 0 ≤ exponent then
        let y := x * power
        if isFinite y then some y else none
      else some (x / power)
    else if x == 0 then some x
    else if 0 ≤ exponent then none
    else scale? steps (x / nearest false 1 308) (exponent + 308)

def float? (negative : Bool) (significand : Nat) (exponent : Int) : Option Json :=
  (scale? 8 (ofNat significand) exponent).map fun x => .float (if negative then -x else x)

/-- The part after `e`; an exponent beyond 31 bits leaves zero or nothing. -/
def readExponent? (negative : Bool) (significand : Nat) (start : Int) (s : List Char) :
    Option (Json × List Char) :=
  let (down, rest) := readSign s
  match rest with
  | [] => none
  | c :: _ =>
    if !isDigit c then none
    else
      let (n, _, after) := gather maxExponent 0 rest
      if after.head?.any isDigit then
        if significand ≠ 0 ∧ !down then none
        else some (.float (withSign negative 0), after.dropWhile isDigit)
      else
        (float? negative significand (if down then start - n else start + n)).map (·, after)

def afterFraction? (negative : Bool) (significand : Nat) (exponent : Int) (s : List Char) :
    Option (Json × List Char) :=
  match s with
  | 'e' :: rest | 'E' :: rest => readExponent? negative significand exponent rest
  | _ => (float? negative significand exponent).map (·, s)

def readFraction? (negative : Bool) (significand : Nat) (exponent : Int) (s : List Char) :
    Option (Json × List Char) :=
  if s.head?.any isDigit then
    let (n, count, rest) := gather maxSignificand significand s
    afterFraction? negative n (exponent - count) (rest.dropWhile isDigit)
  else none

def whole (negative : Bool) (n : Nat) : Json :=
  if negative then
    if n = 0 ∨ two63 < n then .float (-(ofNat n)) else .int (-(n : Int))
  else .int n

def afterWhole? (negative : Bool) (n : Nat) (s : List Char) : Option (Json × List Char) :=
  match s with
  | '.' :: rest => readFraction? negative n 0 rest
  | 'e' :: rest | 'E' :: rest => readExponent? negative n 0 rest
  | _ => some (whole negative n, s)

def readUnsigned? (negative : Bool) (s : List Char) : Option (Json × List Char) :=
  match s with
  | '0' :: rest => if rest.head?.any isDigit then none else afterWhole? negative 0 rest
  | c :: _ =>
    if !isDigit c then none
    else
      let (n, _, rest) := gather maxSignificand 0 s
      -- Digits for which 64 bits have no room only raise the exponent.
      if rest.head?.any isDigit then
        let exponent := (rest.takeWhile isDigit).length
        match rest.dropWhile isDigit with
        | '.' :: after => readFraction? negative n exponent after
        | after => afterFraction? negative n exponent after
      else afterWhole? negative n rest
  | [] => none

def readNumber? (s : List Char) : Option (Json × List Char) :=
  match s with
  | '-' :: rest => readUnsigned? true rest
  | _ => readUnsigned? false s

end Household.Json
