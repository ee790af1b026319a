import Household.Clock.Date
import Household.Decimal.Reading

/-! # Reading dates and times

A pattern is a list of items: numbers with at most so many digits, single characters, gaps of white
space, and a fraction of a second. White space before a number is passed over.
-/

set_option autoImplicit false

namespace Household.Clock

open Household.Text Household.Decimal

inductive Field where
  | year
  | month
  | day
  | hour
  | minute
  | second
  | nano
  deriving DecidableEq, Repr

inductive Item where
  | number (field : Field) (width : Nat)
  | mark (c : Char)
  | gap
  | fraction

structure Reading where
  year : Int
  month : Nat
  day : Nat
  hour : Nat
  minute : Nat
  second : Nat
  nano : Nat

def Reading.empty : Reading := ⟨0, 0, 0, 0, 0, 0, 0⟩

def Reading.set (r : Reading) (field : Field) (n : Int) : Reading :=
  match field with
  | .year => { r with year := n }
  | .month => { r with month := n.toNat }
  | .day => { r with day := n.toNat }
  | .hour => { r with hour := n.toNat }
  | .minute => { r with minute := n.toNat }
  | .second => { r with second := n.toNat }
  | .nano => { r with nano := n.toNat }

def Reading.time? (r : Reading) : Option TimeOfDay := TimeOfDay.of? r.hour r.minute r.second r.nano

def Reading.date? (r : Reading) : Option Date := Date.of? r.year r.month r.day

def Reading.moment? (r : Reading) : Option Moment := do
  some ⟨← r.date?, ← r.time?⟩

def readNumber? (width : Nat) (s : List Char) : Option (Nat × List Char) :=
  let ds := (s.take width).takeWhile isDigit
  if ds.isEmpty then none else some (digitsValue ds, s.drop ds.length)

/-- A year may carry a sign, and then has any number of digits. -/
def readYear? (width : Nat) (s : List Char) : Option (Int × List Char) :=
  match s with
  | '-' :: rest => (readNumber? rest.length rest).map fun (n, rest) => (-(n : Int), rest)
  | '+' :: rest => (readNumber? rest.length rest).map fun (n, rest) => ((n : Int), rest)
  | _ => (readNumber? width s).map fun (n, rest) => ((n : Int), rest)

/-- The point and digits of a fraction, in nanoseconds; digits after the ninth do not count. -/
def readFraction? (s : List Char) : Option (Nat × List Char) :=
  match s with
  | '.' :: rest =>
    let ds := rest.takeWhile isDigit
    if ds.isEmpty then none
    else
      let kept := ds.take 9
      some (digitsValue kept * Nat.pow 10 (9 - kept.length), rest.dropWhile isDigit)
  | _ => some (0, s)

def Item.read? (item : Item) (r : Reading) (s : List Char) : Option (Reading × List Char) :=
  match item with
  | .number .year width =>
    (readYear? width (trimStart s)).map fun (n, rest) => (r.set .year n, rest)
  | .number field width =>
    (readNumber? width (trimStart s)).map fun (n, rest) => (r.set field n, rest)
  | .mark c => if s.head? = some c then some (r, s.tail) else none
  | .gap => some (r, trimStart s)
  | .fraction => (readFraction? s).map fun (n, rest) => (r.set .nano n, rest)

def readItems? : List Item → Reading → List Char → Option (Reading × List Char)
  | [], r, s => some (r, s)
  | item :: items, r, s => do
    let (r, s) ← item.read? r s
    readItems? items r s

def readAll? (items : List Item) (s : List Char) : Option Reading :=
  match readItems? items .empty s with
  | some (r, []) => some r
  | _ => none

def yearItem : Item := .number .year 4

def two (field : Field) : Item := .number field 2

def hourMinute : List Item := [two .hour, .mark ':', two .minute]

def hourMinuteSecond : List Item := hourMinute ++ [.mark ':', two .second]

def dateItems : List Item := [yearItem, .mark '-', two .month, .mark '-', two .day]

def time? (s : List Char) : Option TimeOfDay :=
  ((readAll? hourMinute s).bind (·.time?)).or ((readAll? hourMinuteSecond s).bind (·.time?))

/-- A time of day with optional seconds and fraction, and white space around its marks. -/
def looseTime? (s : List Char) : Option TimeOfDay := do
  let (r, rest) ← readItems? [two .hour, .gap, .mark ':', two .minute] .empty s
  let seconds := [.gap, .mark ':', two .second, .fraction, .gap]
  let (r, rest) := (readItems? seconds r rest).getD (r, rest)
  if isBlank rest then r.time? else none

def moment? (s : List Char) : Option Moment :=
  let items : List Item :=
    [yearItem, .gap, .mark '-', two .month, .gap, .mark '-', two .day, .gap, .mark 'T', two .hour,
      .gap, .mark ':', two .minute, .gap, .mark ':', two .second, .fraction, .gap]
  (readAll? items s).bind (·.moment?)

def exactly? (count : Nat) (s : List Char) : Option (Nat × List Char) :=
  let ds := s.take count
  if ds.length = count && ds.all isDigit then some (digitsValue ds, s.drop count) else none

def char? (p : Char → Bool) : List Char → Option (List Char)
  | c :: rest => if p c then some rest else none
  | [] => none

def offset? (s : List Char) : Option (List Char) :=
  match s with
  | 'Z' :: rest | 'z' :: rest => some rest
  | '+' :: rest | '-' :: rest | '\u2212' :: rest => do
    let (hours, rest) ← exactly? 2 rest
    let rest ← char? (· = ':') rest
    let (minutes, rest) ← exactly? 2 rest
    if hours < 24 ∧ minutes < 60 then some rest else none
  | _ => none

/-- A moment with an offset, all numbers at full width. The wall-clock time counts as written. -/
def zonedMoment? (s : List Char) : Option Moment := do
  let (year, s) ← exactly? 4 s
  let s ← char? (· = '-') s
  let (month, s) ← exactly? 2 s
  let s ← char? (· = '-') s
  let (day, s) ← exactly? 2 s
  let s ← char? (fun c => c = 'T' || c = 't' || c = ' ') s
  let (hour, s) ← exactly? 2 s
  let s ← char? (· = ':') s
  let (minute, s) ← exactly? 2 s
  let s ← char? (· = ':') s
  let (second, s) ← exactly? 2 s
  let (nano, s) ← readFraction? s
  let s ← offset? s
  if s.isEmpty then Reading.moment? ⟨year, month, day, hour, minute, second, nano⟩ else none

def givenMoment? (s : List Char) : Option Moment :=
  let date := dateItems ++ [.mark 'T']
  (zonedMoment? s).or <|
    ((readAll? (date ++ hourMinuteSecond) s).bind (·.moment?)).or <|
      ((readAll? (date ++ hourMinute) s).bind (·.moment?)).or <|
        (readAll? (dateItems ++ .gap :: hourMinute) s).bind (·.moment?)

end Household.Clock
