/-! # Digests of documents

A document is recognised by the SHA-256 digest of its bytes, written as 64 hexadecimal digits.
-/

set_option autoImplicit false

namespace Household.Digest

abbrev Word := UInt32

def rotate (x : Word) (n : Word) : Word := (x >>> n) ||| (x <<< (32 - n))

/-- The leading bits of the fractional parts of the cube roots of the first 64 primes. -/
def roundConstants : List Word :=
  [0x428a2f98, 0x71374491, 0xb5c0fbcf, 0xe9b5dba5, 0x3956c25b, 0x59f111f1, 0x923f82a4, 0xab1c5ed5,
   0xd807aa98, 0x12835b01, 0x243185be, 0x550c7dc3, 0x72be5d74, 0x80deb1fe, 0x9bdc06a7, 0xc19bf174,
   0xe49b69c1, 0xefbe4786, 0x0fc19dc6, 0x240ca1cc, 0x2de92c6f, 0x4a7484aa, 0x5cb0a9dc, 0x76f988da,
   0x983e5152, 0xa831c66d, 0xb00327c8, 0xbf597fc7, 0xc6e00bf3, 0xd5a79147, 0x06ca6351, 0x14292967,
   0x27b70a85, 0x2e1b2138, 0x4d2c6dfc, 0x53380d13, 0x650a7354, 0x766a0abb, 0x81c2c92e, 0x92722c85,
   0xa2bfe8a1, 0xa81a664b, 0xc24b8b70, 0xc76c51a3, 0xd192e819, 0xd6990624, 0xf40e3585, 0x106aa070,
   0x19a4c116, 0x1e376c08, 0x2748774c, 0x34b0bcb5, 0x391c0cb3, 0x4ed8aa4a, 0x5b9cca4f, 0x682e6ff3,
   0x748f82ee, 0x78a5636f, 0x84c87814, 0x8cc70208, 0x90befffa, 0xa4506ceb, 0xbef9a3f7, 0xc67178f2]

structure Chain where
  a : Word
  b : Word
  c : Word
  d : Word
  e : Word
  f : Word
  g : Word
  h : Word

namespace Chain

/-- The leading bits of the fractional parts of the square roots of the first eight primes. -/
def start : Chain :=
  ⟨0x6a09e667, 0xbb67ae85, 0x3c6ef372, 0xa54ff53a, 0x510e527f, 0x9b05688c, 0x1f83d9ab, 0x5be0cd19⟩

def add (x y : Chain) : Chain :=
  ⟨x.a + y.a, x.b + y.b, x.c + y.c, x.d + y.d, x.e + y.e, x.f + y.f, x.g + y.g, x.h + y.h⟩

def words (x : Chain) : List Word := [x.a, x.b, x.c, x.d, x.e, x.f, x.g, x.h]

def round (x : Chain) (input : Word) : Chain :=
  let mixed := rotate x.e 6 ^^^ rotate x.e 11 ^^^ rotate x.e 25
  let choice := (x.e &&& x.f) ^^^ (~~~x.e &&& x.g)
  let first := x.h + mixed + choice + input
  let spread := rotate x.a 2 ^^^ rotate x.a 13 ^^^ rotate x.a 22
  let majority := (x.a &&& x.b) ^^^ (x.a &&& x.c) ^^^ (x.b &&& x.c)
  ⟨first + (spread + majority), x.a, x.b, x.c, x.d + first, x.e, x.f, x.g⟩

end Chain

def nextWord (latest : List Word) : Word :=
  let x := latest.getD 14 0
  let y := latest.getD 1 0
  let early := rotate x 7 ^^^ rotate x 18 ^^^ (x >>> 3)
  let late := rotate y 17 ^^^ rotate y 19 ^^^ (y >>> 10)
  late + latest.getD 6 0 + early + latest.getD 15 0

def extend : Nat → List Word → List Word
  | 0, latest => latest
  | n + 1, latest => extend n (nextWord latest :: latest)

def schedule (block : List Word) : List Word := (extend 48 block.reverse).reverse

def compress (x : Chain) (block : List Word) : Chain :=
  x.add (((schedule block).zipWith (· + ·) roundConstants).foldl Chain.round x)

/-- A one bit, zero bits, and the number of bits, up to the next multiple of 64 bytes. -/
def padding (size : Nat) : List UInt8 :=
  let bits := size * 8
  (0x80 : UInt8) :: List.replicate ((119 - size % 64) % 64) 0 ++
    ([56, 48, 40, 32, 24, 16, 8, 0].map fun shift => UInt8.ofNat (bits >>> shift))

def wordsOf : List UInt8 → List Word
  | a :: b :: c :: d :: rest =>
    ((a.toUInt32 <<< 24) ||| (b.toUInt32 <<< 16) ||| (c.toUInt32 <<< 8) ||| d.toUInt32) ::
      wordsOf rest
  | _ => []

def blocks : Nat → List Word → List (List Word)
  | 0, _ => []
  | n + 1, ws => ws.take 16 :: blocks n (ws.drop 16)

def hex (w : Word) : List Char :=
  [28, 24, 20, 16, 12, 8, 4, 0].map fun shift => Nat.digitChar (w.toNat >>> shift % 16)

def ofBytes (content : List UInt8) : String :=
  let ws := wordsOf (content ++ padding content.length)
  let last := (blocks (ws.length / 16) ws).foldl compress Chain.start
  String.ofList (last.words.flatMap hex)

theorem length_padding (size : Nat) : (size + (padding size).length) % 64 = 0 := by
  simp only [padding, List.length_cons, List.length_append, List.length_replicate, List.length_map,
    List.length_nil]
  omega

end Household.Digest
