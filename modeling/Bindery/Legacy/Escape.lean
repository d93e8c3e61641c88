import Bindery.Text.CharName
import Bindery.Text.Pieces
import Bindery.Text.Utf8
/-!
# Escapes in string literals

What a string literal of a legacy file denotes. The content is taken as UTF-8 bytes; escapes stand
for single code points, every other byte for the code point of its value; the result has to be
bytes again, and these are read as UTF-8. So raw characters and the escaped bytes of characters may
be mixed freely. An escape that is not known stands for itself.
-/
namespace Bindery.Legacy.Escape

/-- An escape of a fixed number of digits of base sixteen. -/
inductive HexEscape where
  | two | four | eight
  deriving DecidableEq, Repr

namespace HexEscape

def ofLetter? (b : UInt8) : Option HexEscape :=
  if b = 0x78 then some two
  else if b = 0x75 then some four
  else if b = 0x55 then some eight
  else none

def count : HexEscape → Nat
  | two => 2
  | four => 4
  | eight => 8

def spelling : HexEscape → String
  | two => "\\xXX"
  | four => "\\uXXXX"
  | eight => "\\UXXXXXXXX"

end HexEscape

/-- Why an escape cannot be read. -/
inductive Reason where
  | truncated (escape : HexEscape)
  | illegalCharacter
  | malformedName
  | unknownName
  | trailingBackslash
  deriving DecidableEq, Repr

def Reason.message : Reason → String
  | truncated escape => "truncated " ++ escape.spelling ++ " escape"
  | illegalCharacter => "illegal Unicode character"
  | malformedName => "malformed \\N character escape"
  | unknownName => "unknown Unicode character name"
  | trailingBackslash => "\\ at end of string"

inductive Fault where
  /-- An escape of `length` bytes at `position`. -/
  | escape (reason : Reason) (position length : Nat)
  /-- Code points that are no bytes, the first of which stands at `position`. -/
  | wide (first position length : Nat)
  | utf8 (fault : Utf8.Fault)
  deriving DecidableEq, Repr

/-- The character of an escape with one letter or sign. -/
def single? (b : UInt8) : Option Nat :=
  if b = 0x5C then some 0x5C
  else if b = 0x27 then some 0x27
  else if b = 0x22 then some 0x22
  else if b = 0x61 then some 0x07
  else if b = 0x62 then some 0x08
  else if b = 0x66 then some 0x0C
  else if b = 0x6E then some 0x0A
  else if b = 0x72 then some 0x0D
  else if b = 0x74 then some 0x09
  else if b = 0x76 then some 0x0B
  else none

def octalValue? (b : UInt8) : Option Nat :=
  if 0x30 ≤ b.toNat ∧ b.toNat ≤ 0x37 then some (b.toNat - 0x30) else none

/-- Up to `count` more octal digits behind a value. -/
def octal : (count value : Nat) → List UInt8 → Nat × List UInt8
  | 0, value, rest => (value, rest)
  | _ + 1, value, [] => (value, [])
  | count + 1, value, b :: rest =>
    match octalValue? b with
    | some digit => octal count (value * 8 + digit) rest
    | none => (value, b :: rest)

/-- Exactly `count` digits of base sixteen, or how many there are. -/
def hexDigits : (count read value : Nat) → List UInt8 → Except Nat (Nat × List UInt8)
  | 0, _, value, rest => .ok (value, rest)
  | _ + 1, read, _, [] => .error read
  | count + 1, read, value, b :: rest =>
    match Text.hexValue? (Char.ofNat b.toNat) with
    | some digit => hexDigits count (read + 1) (value * 16 + digit) rest
    | none => .error read

/-- An escape by name, from behind its letter on. The name stands between braces. -/
def byName (position : Nat) : List UInt8 → Except Fault (List Nat × List UInt8)
  | 0x7B :: rest =>
    let name := rest.takeWhile (· ≠ 0x7D)
    if name.length = rest.length then
      .error (.escape .malformedName position (3 + name.length))
    else if name = [] then .error (.escape .malformedName position 3)
    else match Text.named? (name.map fun b => Char.ofNat b.toNat) with
      | some point => .ok ([point], rest.drop (name.length + 1))
      | none => .error (.escape .unknownName position (4 + name.length))
  | _ => .error (.escape .malformedName position 2)

/-- The code points of an escape from behind its backslash on, which stands at `position`. -/
def escape (position : Nat) : List UInt8 → Except Fault (List Nat × List UInt8)
  | [] => .error (.escape .trailingBackslash position 1)
  | b :: rest =>
    if b = 0x0A then .ok ([], rest)
    else match single? b with
      | some point => .ok ([point], rest)
      | none =>
        match octalValue? b with
        | some digit =>
          let (value, rest) := octal 2 digit rest
          .ok ([value], rest)
        | none =>
          match HexEscape.ofLetter? b with
          | some kind =>
            match hexDigits kind.count 0 0 rest with
            | .error read => .error (.escape (.truncated kind) position (2 + read))
            | .ok (value, rest) =>
              if 0x10FFFF < value then
                .error (.escape .illegalCharacter position (2 + kind.count))
              else .ok ([value], rest)
          | none =>
            if b = 0x4E then byName position rest
            else .ok ([0x5C, b.toNat], rest)

/-- The code points of bytes of which the first stands at `position`. -/
def pointsFrom : (fuel position : Nat) → List UInt8 → Except Fault (List Nat)
  | 0, _, _ => .ok []
  | _ + 1, _, [] => .ok []
  | fuel + 1, position, b :: rest =>
    if b = 0x5C then
      match escape position rest with
      | .error fault => .error fault
      | .ok (points, left) =>
        (pointsFrom fuel (position + 1 + (rest.length - left.length)) left).map (points ++ ·)
    else (pointsFrom fuel (position + 1) rest).map (b.toNat :: ·)

def points (bytes : List UInt8) : Except Fault (List Nat) := pointsFrom bytes.length 0 bytes

/-- Code points as bytes, the first of which stands at `position`. -/
def narrowFrom (position : Nat) : List Nat → Except Fault (List UInt8)
  | [] => .ok []
  | point :: rest =>
    if point < 256 then (narrowFrom (position + 1) rest).map (UInt8.ofNat point :: ·)
    else .error (.wide point position (1 + (rest.takeWhile (256 ≤ ·)).length))

/-- The text that the content of a literal denotes. -/
def decode (content : List Char) : Except Fault String := do
  let found ← points (Utf8.encodeChars content)
  let bytes ← narrowFrom 0 found
  match Utf8.decode bytes with
  | .ok text => pure text
  | .error fault => throw (.utf8 fault)

end Bindery.Legacy.Escape
