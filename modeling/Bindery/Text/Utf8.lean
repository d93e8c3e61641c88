/-!
# UTF-8

Encoding and decoding of text as bytes. Decoding refuses overlong forms, surrogates and values past
the last code point, and says which bytes are at fault: the bytes of the longest start of a
character that could still have been continued.
-/
namespace Bindery.Utf8

def encodeChar (c : Char) : List UInt8 :=
  let n := c.toNat
  if n < 0x80 then [UInt8.ofNat n]
  else if n < 0x800 then [UInt8.ofNat (0xC0 + n / 64), UInt8.ofNat (0x80 + n % 64)]
  else if n < 0x10000 then
    [UInt8.ofNat (0xE0 + n / 4096), UInt8.ofNat (0x80 + n / 64 % 64), UInt8.ofNat (0x80 + n % 64)]
  else
    [UInt8.ofNat (0xF0 + n / 262144), UInt8.ofNat (0x80 + n / 4096 % 64),
      UInt8.ofNat (0x80 + n / 64 % 64), UInt8.ofNat (0x80 + n % 64)]

def encodeChars (s : List Char) : List UInt8 := s.flatMap encodeChar

def encode (s : String) : List UInt8 := encodeChars s.toList

inductive Reason where
  | invalidStart | invalidContinuation | unexpectedEnd
  deriving DecidableEq, Repr

/-- Which bytes cannot be read, and why. -/
structure Fault where
  position : Nat
  length : Nat
  first : UInt8
  reason : Reason
  deriving DecidableEq, Repr

/-- The second byte that may follow a lead byte: some leads leave out overlong forms, surrogates or
values past the last code point. -/
def isSecond (lead second : UInt8) : Bool :=
  if lead = 0xE0 then decide (0xA0 ≤ second.toNat ∧ second.toNat ≤ 0xBF)
  else if lead = 0xED then decide (0x80 ≤ second.toNat ∧ second.toNat ≤ 0x9F)
  else if lead = 0xF0 then decide (0x90 ≤ second.toNat ∧ second.toNat ≤ 0xBF)
  else if lead = 0xF4 then decide (0x80 ≤ second.toNat ∧ second.toNat ≤ 0x8F)
  else decide (0x80 ≤ second.toNat ∧ second.toNat ≤ 0xBF)

def isTail (b : UInt8) : Bool := decide (0x80 ≤ b.toNat ∧ b.toNat ≤ 0xBF)

def join2 (a b : UInt8) : Char := Char.ofNat (a.toNat % 32 * 64 + b.toNat % 64)

def join3 (a b c : UInt8) : Char :=
  Char.ofNat (a.toNat % 16 * 4096 + b.toNat % 64 * 64 + c.toNat % 64)

def join4 (a b c d : UInt8) : Char :=
  Char.ofNat (a.toNat % 8 * 262144 + b.toNat % 64 * 4096 + c.toNat % 64 * 64 + d.toNat % 64)

/-- Decode bytes of which the first stands at `position`. -/
def decodeFrom (position : Nat) : List UInt8 → Except Fault (List Char)
  | [] => .ok []
  | a :: rest =>
    if a.toNat < 0x80 then
      (decodeFrom (position + 1) rest).map (Char.ofNat a.toNat :: ·)
    else if a.toNat < 0xC2 ∨ 0xF4 < a.toNat then
      .error ⟨position, 1, a, .invalidStart⟩
    else match rest with
      | [] => .error ⟨position, 1, a, .unexpectedEnd⟩
      | b :: rest =>
        if isSecond a b = false then .error ⟨position, 1, a, .invalidContinuation⟩
        else if a.toNat < 0xE0 then
          (decodeFrom (position + 2) rest).map (join2 a b :: ·)
        else match rest with
          | [] => .error ⟨position, 2, a, .unexpectedEnd⟩
          | c :: rest =>
            if isTail c = false then .error ⟨position, 2, a, .invalidContinuation⟩
            else if a.toNat < 0xF0 then
              (decodeFrom (position + 3) rest).map (join3 a b c :: ·)
            else match rest with
              | [] => .error ⟨position, 3, a, .unexpectedEnd⟩
              | d :: rest =>
                if isTail d = false then .error ⟨position, 3, a, .invalidContinuation⟩
                else (decodeFrom (position + 4) rest).map (join4 a b c d :: ·)

def decodeChars (bytes : List UInt8) : Except Fault (List Char) := decodeFrom 0 bytes

def decode (bytes : List UInt8) : Except Fault String :=
  (decodeChars bytes).map String.ofList

end Bindery.Utf8
