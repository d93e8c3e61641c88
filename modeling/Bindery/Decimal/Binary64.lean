/-!
# Binary64 numbers

The values of the 64-bit binary floating-point format, and the one nearest to a decimal fraction.
A finite value is `mantissa * 2 ^ exponent`; the exponent is the least of the format or the
mantissa has its full 53 bits, so that every value has one form.
-/
namespace Bindery.Decimal

inductive Binary64 where
  | nan
  | infinite (negative : Bool)
  | finite (negative : Bool) (mantissa : Nat) (exponent : Int)
  deriving DecidableEq, Repr

namespace Binary64

def leastExponent : Int := -1074

def greatestExponent : Int := 971

def zero (negative : Bool) : Binary64 := .finite negative 0 leastExponent

/-- The quotient rounded to the nearest integer, a half to the even neighbour. -/
def roundHalfEven (num den : Nat) : Nat :=
  let q := num / den
  let r := 2 * (num % den)
  if r < den then q
  else if den < r then q + 1
  else if q % 2 = 0 then q else q + 1

/-- The number of binary digits. -/
def bitLength (n : Nat) : Nat := if n = 0 then 0 else Nat.log2 n + 1

/-- The quotient `num / den` divided by `2 ^ exponent`, as a fraction. -/
def scaled (num den : Nat) (exponent : Int) : Nat × Nat :=
  match exponent with
  | .ofNat e => (num, den * Nat.pow 2 e)
  | .negSucc e => (num * Nat.pow 2 (e + 1), den)

/-- The value nearest to the positive fraction `num / den`. -/
def ofFraction (negative : Bool) (num den : Nat) : Binary64 :=
  let first : Int := (bitLength num : Int) - bitLength den - 53
  let fits : Nat × Nat := scaled num den first
  let exponent := if fits.1 < Nat.pow 2 53 * fits.2 then first else first + 1
  let exponent := if exponent < leastExponent then leastExponent else exponent
  let fraction := scaled num den exponent
  let mantissa := roundHalfEven fraction.1 fraction.2
  let carried := mantissa = Nat.pow 2 53
  let mantissa := if carried then Nat.pow 2 52 else mantissa
  let exponent := if carried then exponent + 1 else exponent
  if greatestExponent < exponent then .infinite negative else .finite negative mantissa exponent

/-- The value nearest to `digits * 10 ^ exponent`. Magnitudes far outside the format are settled by
the place of the leading digit. -/
def ofDecimal (negative : Bool) (digits : Nat) (exponent : Int) : Binary64 :=
  if digits = 0 then zero negative
  else
    let place : Int := (Nat.toDigits 10 digits).length + exponent
    if 310 < place then .infinite negative
    else if place < -330 then zero negative
    else match exponent with
      | .ofNat e => ofFraction negative (digits * Nat.pow 10 e) 1
      | .negSucc e => ofFraction negative digits (Nat.pow 10 (e + 1))

/-- The magnitude of a finite value as a fraction. -/
def fraction (mantissa : Nat) (exponent : Int) : Nat × Nat :=
  match exponent with
  | .ofNat e => (mantissa * Nat.pow 2 e, 1)
  | .negSucc e => (mantissa, Nat.pow 2 (e + 1))

def isZero : Binary64 → Bool
  | .finite _ mantissa _ => decide (mantissa = 0)
  | _ => false

end Binary64
end Bindery.Decimal
