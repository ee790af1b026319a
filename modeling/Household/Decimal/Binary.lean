/-! # Nearest binary number

The binary64 number nearest to an exact ratio or to a decimal numeral, and the exact value of a
binary64 number as a whole multiple of a power of two.
-/

set_option autoImplicit false

namespace Household.Decimal

def two52 : Nat := 0x10000000000000

def two63 : Nat := 0x8000000000000000

def infinityBits : Nat := 0x7ff0000000000000

def divideEven (num den : Nat) : Nat :=
  let q := num / den
  let r := num % den
  if den < 2 * r || (2 * r == den && q % 2 == 1) then q + 1 else q

def inUnits (num den : Nat) (e : Int) : Nat × Nat :=
  (num * Nat.pow 2 (-e).toNat, den * Nat.pow 2 e.toNat)

def lastPlace (num den : Nat) : Int :=
  let e := max ((num.log2 : Int) - den.log2 - 53) (-1074)
  let (n, d) := inUnits num den e
  if n < d * (2 * two52) then e else e + 1

/-- Bits of the nearest number of positive sign to `num / den`; a carry out of the significand
raises the exponent, and past the largest number stands infinity. -/
def nearestBits (num den : Nat) : Nat :=
  if num = 0 then 0
  else
    let e := lastPlace num den
    let (n, d) := inUnits num den e
    min ((e + 1074).toNat * two52 + divideEven n d) infinityBits

def withSign (negative : Bool) (bits : Nat) : Float :=
  Float.ofBits (UInt64.ofNat (if negative then two63 + bits else bits))

/-- The number nearest to `m * 10 ^ e`. Exponents far outside the range need no computation. -/
def nearest (negative : Bool) (m : Nat) (e : Int) : Float :=
  withSign negative <|
    if m = 0 then 0
    else if 400 < e then infinityBits
    else if (m.log2 / 3 + 1 : Nat) + e < -400 then 0
    else nearestBits (m * Nat.pow 10 e.toNat) (Nat.pow 10 (-e).toNat)

def ofNat (n : Nat) : Float := nearest false n 0

def ofInt (n : Int) : Float := nearest (n < 0) n.natAbs 0

/-- A binary64 number taken apart: `finite negative m q` is `± m * 2 ^ q`. -/
inductive Exact where
  | nan
  | infinite (negative : Bool)
  | finite (negative : Bool) (m : Nat) (q : Int)
  deriving DecidableEq, Repr

def Exact.ofFloat (x : Float) : Exact :=
  let bits := x.toBits.toNat
  let negative := decide (two63 ≤ bits)
  let exponent := bits / two52 % 2048
  let fraction := bits % two52
  if exponent = 2047 then if fraction = 0 then .infinite negative else .nan
  else if exponent = 0 then .finite negative fraction (-1074)
  else .finite negative (two52 + fraction) ((exponent : Int) - 1075)

def isFinite (x : Float) : Bool :=
  match Exact.ofFloat x with
  | .finite .. => true
  | _ => false

def whole? (x : Float) : Option Int :=
  match Exact.ofFloat x with
  | .finite negative m q =>
    let unit := Nat.pow 2 (-q).toNat
    if m % unit = 0 then
      let n : Int := (m * Nat.pow 2 q.toNat / unit : Nat)
      some (if negative then -n else n)
    else none
  | _ => none

example : (nearest false 1 (-1)).toBits = 0x3fb999999999999a := by decide +kernel

example : (nearest true 5 (-324)).toBits = 0x8000000000000001 := by decide +kernel

example : whole? (nearest false 30 (-1)) = some 3 := by decide +kernel

end Household.Decimal
