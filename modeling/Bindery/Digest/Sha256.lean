/-!
# SHA-256

The SHA-256 digest of a list of bytes.
-/
namespace Bindery.Sha256

/-- The first 32 bits of the fractional parts of the cube roots of the first 64 primes. -/
def roundConstants : List UInt32 := [
  0x428a2f98, 0x71374491, 0xb5c0fbcf, 0xe9b5dba5, 0x3956c25b, 0x59f111f1, 0x923f82a4, 0xab1c5ed5,
  0xd807aa98, 0x12835b01, 0x243185be, 0x550c7dc3, 0x72be5d74, 0x80deb1fe, 0x9bdc06a7, 0xc19bf174,
  0xe49b69c1, 0xefbe4786, 0x0fc19dc6, 0x240ca1cc, 0x2de92c6f, 0x4a7484aa, 0x5cb0a9dc, 0x76f988da,
  0x983e5152, 0xa831c66d, 0xb00327c8, 0xbf597fc7, 0xc6e00bf3, 0xd5a79147, 0x06ca6351, 0x14292967,
  0x27b70a85, 0x2e1b2138, 0x4d2c6dfc, 0x53380d13, 0x650a7354, 0x766a0abb, 0x81c2c92e, 0x92722c85,
  0xa2bfe8a1, 0xa81a664b, 0xc24b8b70, 0xc76c51a3, 0xd192e819, 0xd6990624, 0xf40e3585, 0x106aa070,
  0x19a4c116, 0x1e376c08, 0x2748774c, 0x34b0bcb5, 0x391c0cb3, 0x4ed8aa4a, 0x5b9cca4f, 0x682e6ff3,
  0x748f82ee, 0x78a5636f, 0x84c87814, 0x8cc70208, 0x90befffa, 0xa4506ceb, 0xbef9a3f7, 0xc67178f2]

/-- The eight working words. -/
structure State where
  a : UInt32
  b : UInt32
  c : UInt32
  d : UInt32
  e : UInt32
  f : UInt32
  g : UInt32
  h : UInt32
  deriving DecidableEq, Repr

/-- The first 32 bits of the fractional parts of the square roots of the first eight primes. -/
def State.start : State :=
  ⟨0x6a09e667, 0xbb67ae85, 0x3c6ef372, 0xa54ff53a, 0x510e527f, 0x9b05688c, 0x1f83d9ab, 0x5be0cd19⟩

def rotateRight (x n : UInt32) : UInt32 := (x >>> n) ||| (x <<< (32 - n))

def State.round (s : State) (constant word : UInt32) : State :=
  let choice := (s.e &&& s.f) ^^^ ((s.e ^^^ 0xffffffff) &&& s.g)
  let majority := (s.a &&& s.b) ^^^ (s.a &&& s.c) ^^^ (s.b &&& s.c)
  let sumA := rotateRight s.a 2 ^^^ rotateRight s.a 13 ^^^ rotateRight s.a 22
  let sumE := rotateRight s.e 6 ^^^ rotateRight s.e 11 ^^^ rotateRight s.e 25
  let first := s.h + sumE + choice + constant + word
  ⟨first + sumA + majority, s.a, s.b, s.c, s.d + first, s.e, s.f, s.g⟩

def State.add (s t : State) : State :=
  ⟨s.a + t.a, s.b + t.b, s.c + t.c, s.d + t.d, s.e + t.e, s.f + t.f, s.g + t.g, s.h + t.h⟩

def State.words (s : State) : List UInt32 := [s.a, s.b, s.c, s.d, s.e, s.f, s.g, s.h]

/-- The words of a block, latest first, extended by one. -/
def extend (latest : List UInt32) : List UInt32 :=
  let w (back : Nat) : UInt32 := latest.getD (back - 1) 0
  let low := rotateRight (w 15) 7 ^^^ rotateRight (w 15) 18 ^^^ (w 15 >>> 3)
  let high := rotateRight (w 2) 17 ^^^ rotateRight (w 2) 19 ^^^ (w 2 >>> 10)
  (w 16 + low + w 7 + high) :: latest

/-- The 64 words of the schedule of a block of 16. -/
def schedule (block : List UInt32) : List UInt32 :=
  (Nat.repeat extend 48 block.reverse).reverse

def State.absorb (s : State) (block : List UInt32) : State :=
  s.add ((roundConstants.zip (schedule block)).foldl (fun t cw => t.round cw.1 cw.2) s)

def bigEndian (bytes : List UInt8) : UInt32 :=
  bytes.foldl (fun n b => n * 256 + UInt32.ofNat b.toNat) 0

def wordBytes (w : UInt32) : List UInt8 :=
  ([24, 16, 8, 0] : List UInt32).map fun shift => UInt8.ofNat ((w >>> shift).toNat % 256)

/-- A message with the end mark, zeros up to the next place for a length, and its length in bits. -/
def pad (message : List UInt8) : List UInt8 :=
  let bits := message.length * 8
  let zeros : List UInt8 := List.replicate ((119 - message.length % 64) % 64) 0
  let size : List UInt8 :=
    ([56, 48, 40, 32, 24, 16, 8, 0] : List Nat).map fun shift =>
      UInt8.ofNat ((bits >>> shift) % 256)
  message ++ [0x80] ++ zeros ++ size

/-- Cut into words of four bytes. -/
def toWords : List UInt8 → List UInt32
  | a :: b :: c :: d :: rest => bigEndian [a, b, c, d] :: toWords rest
  | _ => []

def absorbAll : (fuel : Nat) → State → List UInt32 → State
  | 0, s, _ => s
  | fuel + 1, s, words =>
    if words.isEmpty then s else absorbAll fuel (s.absorb (words.take 16)) (words.drop 16)

def digest (message : List UInt8) : List UInt8 :=
  let words := toWords (pad message)
  (absorbAll words.length State.start words).words.flatMap wordBytes

theorem length_wordBytes (w : UInt32) : (wordBytes w).length = 4 := rfl

/-- A digest has 32 bytes. -/
@[simp] theorem length_digest (message : List UInt8) : (digest message).length = 32 := by
  simp [digest, State.words, length_wordBytes]

end Bindery.Sha256
