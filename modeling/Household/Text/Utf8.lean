/-! # UTF-8

The bytes of a text, and the place and extent of the first fault in bytes that are no text.
-/

set_option autoImplicit false

namespace Household.Text

def byteSize : List Char → Nat
  | [] => 0
  | c :: rest => c.utf8Size + byteSize rest

/-- Where reading stopped, and how many bytes are at fault. A sequence cut off by the end of the
input has no extent. -/
structure Utf8Fault where
  validUpTo : Nat
  extent : Option Nat
  deriving DecidableEq, Repr

def Utf8Fault.message (f : Utf8Fault) : String :=
  match f.extent with
  | some n => s!"invalid utf-8 sequence of {n} bytes from index {f.validUpTo}"
  | none => s!"incomplete utf-8 byte sequence from index {f.validUpTo}"

def continuation (b : UInt8) : Option (Nat × UInt8 × UInt8) :=
  if b < 0x80 then some (0, 0x80, 0xBF)
  else if 0xC2 ≤ b && b ≤ 0xDF then some (1, 0x80, 0xBF)
  else if b == 0xE0 then some (2, 0xA0, 0xBF)
  else if b == 0xED then some (2, 0x80, 0x9F)
  else if 0xE1 ≤ b && b ≤ 0xEF then some (2, 0x80, 0xBF)
  else if b == 0xF0 then some (3, 0x90, 0xBF)
  else if 0xF1 ≤ b && b ≤ 0xF3 then some (3, 0x80, 0xBF)
  else if b == 0xF4 then some (3, 0x80, 0x8F)
  else none

def leadBits (b : UInt8) : Nat :=
  if b < 0x80 then b.toNat
  else if b < 0xE0 then b.toNat % 0x20
  else if b < 0xF0 then b.toNat % 0x10
  else b.toNat % 0x08

inductive Tail where
  | done (code : Nat) (rest : List UInt8)
  | wrong (accepted : Nat)
  | cut

/-- Reads `n` more bytes, the next one within `low` and `high` and later ones within the range of
all continuation bytes. -/
def readTail (low high : UInt8) (accepted code : Nat) : Nat → List UInt8 → Tail
  | 0, rest => .done code rest
  | _ + 1, [] => .cut
  | n + 1, b :: rest =>
    if low ≤ b && b ≤ high then
      readTail 0x80 0xBF (accepted + 1) (code * 0x40 + b.toNat % 0x40) n rest
    else .wrong accepted

def decodeFrom : Nat → Nat → List UInt8 → Except Utf8Fault (List Char)
  | _, _, [] => .ok []
  | 0, index, _ :: _ => .error ⟨index, none⟩
  | fuel + 1, index, b :: rest =>
    match continuation b with
    | none => .error ⟨index, some 1⟩
    | some (n, low, high) =>
      match readTail low high 1 (leadBits b) n rest with
      | .done code rest => (decodeFrom fuel (index + 1 + n) rest).map (Char.ofNat code :: ·)
      | .wrong accepted => .error ⟨index, some accepted⟩
      | .cut => .error ⟨index, none⟩

def decode (bytes : List UInt8) : Except Utf8Fault (List Char) :=
  decodeFrom bytes.length 0 bytes

example : decode [0x41, 0xC3, 0xA9] = .ok ['A', 'é'] := rfl

example : decode [0x41, 0xFF] = .error ⟨1, some 1⟩ := rfl

example : decode [0xE2, 0x82] = .error ⟨0, none⟩ := rfl

end Household.Text
