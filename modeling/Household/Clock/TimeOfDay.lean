/-! # Time of day

Whole seconds since midnight and nanoseconds within the second. A leap second is the second before
it with a thousand million nanoseconds or more, so it comes after that second and before the next.
-/

set_option autoImplicit false

namespace Household

structure TimeOfDay where
  second : Nat
  nano : Nat
  second_lt : second < 86400
  nano_lt : nano < 2000000000
  deriving DecidableEq

namespace TimeOfDay

def midnight : TimeOfDay := ⟨0, 0, by decide, by decide⟩

/-- Sixty seconds are accepted as the leap second of any minute. -/
def of? (hour minute second nano : Nat) : Option TimeOfDay :=
  if h : hour < 24 ∧ minute < 60 ∧ second < 61 ∧ nano < 1000000000 then
    if hs : second = 60 then
      some ⟨hour * 3600 + minute * 60 + 59, 1000000000 + nano, by omega, by omega⟩
    else
      some ⟨hour * 3600 + minute * 60 + second, nano, by omega, by omega⟩
  else none

def hour (t : TimeOfDay) : Nat := t.second / 3600

def minute (t : TimeOfDay) : Nat := t.second / 60 % 60

def clockSecond (t : TimeOfDay) : Nat := t.second % 60 + t.nano / 1000000000

def isLeap (t : TimeOfDay) : Bool := 1000000000 ≤ t.nano

def le (a b : TimeOfDay) : Bool :=
  a.second < b.second || (a.second == b.second && a.nano ≤ b.nano)

def lt (a b : TimeOfDay) : Bool := !le b a

def instant (t : TimeOfDay) : Nat := t.second * 1000000000 + t.nano

theorem le_iff {a b : TimeOfDay} :
    le a b = true ↔ a.second < b.second ∨ a.second = b.second ∧ a.nano ≤ b.nano := by simp [le]

theorem le_refl (a : TimeOfDay) : le a a = true := by simp [le]

theorem le_trans {a b c : TimeOfDay} (hab : le a b = true) (hbc : le b c = true) :
    le a c = true := by
  rw [le_iff] at *
  omega

theorem le_total (a b : TimeOfDay) : le a b = true ∨ le b a = true := by
  simp only [le_iff]
  omega

theorem hour_lt (t : TimeOfDay) : t.hour < 24 := by
  have := t.second_lt
  unfold hour
  omega

/-- Apart from leap seconds the order is that of the instants. -/
theorem le_iff_instant_le {a b : TimeOfDay} (ha : a.isLeap = false) (hb : b.isLeap = false) :
    le a b = true ↔ a.instant ≤ b.instant := by
  simp [isLeap] at ha hb
  rw [le_iff]
  unfold instant
  omega

def two (n : Nat) : String := if n < 10 then s!"0{n}" else toString n

def fractionDigits (width n : Nat) : String :=
  let ds := Nat.toDigits 10 n
  String.ofList (List.replicate (width - ds.length) '0' ++ ds)

/-- A fraction is written with three, six or nine digits, or not at all. -/
def fraction (nano : Nat) : String :=
  let n := nano % 1000000000
  if n = 0 then ""
  else if n % 1000000 = 0 then "." ++ fractionDigits 3 (n / 1000000)
  else if n % 1000 = 0 then "." ++ fractionDigits 6 (n / 1000)
  else "." ++ fractionDigits 9 n

def shortText (t : TimeOfDay) : String := s!"{two t.hour}:{two t.minute}"

def text (t : TimeOfDay) : String :=
  s!"{two t.hour}:{two t.minute}:{two t.clockSecond}" ++ fraction t.nano

end TimeOfDay

end Household
