import Household.Decimal.Shortest

/-! # Written numbers

The text of a binary64 number: its shortest digits, set out with or without an exponent.
-/

set_option autoImplicit false

namespace Household.Decimal

/-- How a number is set out. `positional` bounds the power of ten of the leading digit between
which no exponent is written; without bounds none ever is. `signedPower` puts a plus before an
exponent that is not negative. -/
structure Layout where
  tie : Tie
  positional : Option (Int × Int)
  keepPoint : Bool
  signedPower : Bool

def digitText (n : Nat) : List Char := Nat.toDigits 10 n

def zeros (n : Nat) : List Char := List.replicate n '0'

def Digits.positional (d : Digits) (keepPoint : Bool) : List Char :=
  let text := digitText d.coefficient
  if 0 ≤ d.exponent then
    text ++ zeros d.exponent.toNat ++ (if keepPoint then ['.', '0'] else [])
  else
    let places := d.exponent.natAbs
    let padded := zeros (places + 1 - text.length) ++ text
    padded.take (padded.length - places) ++ '.' :: padded.drop (padded.length - places)

def Digits.scientific (d : Digits) (signedPower : Bool) : List Char :=
  let text := digitText d.coefficient
  let power := d.exponent + (text.length - 1 : Nat)
  let sign := if power < 0 then ['-'] else if signedPower then ['+'] else []
  text.take 1 ++ (if 1 < text.length then '.' :: text.drop 1 else []) ++
    'e' :: sign ++ digitText power.natAbs

def Digits.write (layout : Layout) (d : Digits) : List Char :=
  let lead := d.exponent + ((digitText d.coefficient).length - 1 : Nat)
  match layout.positional with
  | none => d.positional layout.keepPoint
  | some (low, high) =>
    if low ≤ lead && lead ≤ high then d.positional layout.keepPoint
    else d.scientific layout.signedPower

def write (layout : Layout) (x : Float) : String :=
  let signed (negative : Bool) (text : List Char) : String :=
    String.ofList (if negative then '-' :: text else text)
  match Exact.ofFloat x with
  | .nan => "NaN"
  | .infinite negative => signed negative "inf".toList
  | .finite negative m q =>
    signed negative <|
      if m = 0 then Digits.positional ⟨0, 0⟩ layout.keepPoint
      else (shortest layout.tie m q).write layout

def Layout.plain : Layout := ⟨.up, none, false, false⟩

def Layout.quoted : Layout := ⟨.up, some (-4, 15), true, false⟩

def Layout.document : Layout := ⟨.even, some (-5, 15), true, true⟩

example : write .plain (nearest false 1 21) = "1000000000000000000000" := by decide +kernel

example : write .quoted (nearest false 15 (-8)) = "1.5e-7" := by decide +kernel

example : write .document (nearest false 25 39) = "2.5e+40" := by decide +kernel

example : write .document (nearest true 0 0) = "-0.0" := by decide +kernel

end Household.Decimal
