import Household.Decimal.Binary

/-! # Shortest decimal digits

The fewest decimal digits that read back as a given binary64 number; among those the digits
nearest to it.
-/

set_option autoImplicit false

namespace Household.Decimal

structure Digits where
  coefficient : Nat
  exponent : Int
  deriving DecidableEq, Repr

inductive Tie where
  | even
  | up
  deriving DecidableEq, Repr

/-- The numbers that round to `m * 2 ^ q`, in quarters of `2 ^ q`, both ends included iff `m` is
even. The gap below a power of two is half as wide. -/
structure Interval where
  low : Nat
  middle : Nat
  high : Nat
  closed : Bool

def Interval.around (m : Nat) (q : Int) : Interval where
  low := if m = two52 ∧ -1074 < q then 4 * m - 1 else 4 * m - 2
  middle := 4 * m
  high := 4 * m + 2
  closed := m % 2 = 0

def Interval.holds (i : Interval) (scale : Nat) (point : Nat) : Bool :=
  if i.closed then i.low * scale ≤ point && point ≤ i.high * scale
  else i.low * scale < point && point < i.high * scale

/-- The point of the grid `10 ^ k` that stands for the number, if one of its two neighbours there
reads back. -/
def onGrid? (tie : Tie) (i : Interval) (q k : Int) : Option Nat :=
  let scale := Nat.pow 2 (q - 2).toNat * Nat.pow 10 (-k).toNat
  let unit := Nat.pow 2 (2 - q).toNat * Nat.pow 10 k.toNat
  let below := i.middle * scale / unit
  let above := below + 1
  match i.holds scale (below * unit), i.holds scale (above * unit) with
  | true, true =>
    let down := i.middle * scale - below * unit
    let up := above * unit - i.middle * scale
    if down < up then some below
    else if up < down then some above
    else match tie with
      | .even => some (if below % 2 = 0 then below else above)
      | .up => some above
  | true, false => some below
  | false, true => some above
  | false, false => none

def search (tie : Tie) (i : Interval) (q : Int) : Nat → Int → Digits
  | 0, k => ⟨0, k⟩
  | steps + 1, k =>
    match onGrid? tie i q k with
    | some point => ⟨point, k⟩
    | none => search tie i q steps (k - 1)

/-- A power of ten above `2 ^ b`, with 30103 / 100000 for the logarithm of two. -/
def gridAbove (b : Int) : Int := b * 30103 / 100000 + 1

/-- Seventeen digits always read back; the search starts at most two places above them. -/
def shortest (tie : Tie) (m : Nat) (q : Int) : Digits :=
  search tie (Interval.around m q) q 20 (gridAbove (m.log2 + 1 + q))

example : shortest .even 0x1999999999999a (-56) = ⟨1, -1⟩ := by decide +kernel

example : shortest .even 1 (-1074) = ⟨5, -324⟩ := by decide +kernel

end Household.Decimal
