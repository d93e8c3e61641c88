import Bindery.Decimal.Binary64
import Bindery.Text.Pieces
/-!
# Shortest decimals

The text of a binary64 number: the fewest digits that read back as the same number, and of those
the nearest, laid out as a `Layout` says.
-/
namespace Bindery.Decimal

/-- Significant digits and the decimal exponent of the first one. -/
structure Scientific where
  digits : List Char
  exponent : Int
  deriving DecidableEq, Repr

/-- The decimal exponent of the leading digit of a positive fraction. -/
def leadingExponent (num den : Nat) : Int :=
  if den ≤ num then ((Nat.toDigits 10 (num / den)).length : Int) - 1
  else
    let rec place : (fuel : Nat) → (count : Nat) → (num : Nat) → Int
      | 0, count, _ => -(count : Int)
      | fuel + 1, count, num =>
        if den ≤ num then -(count : Int) else place fuel (count + 1) (num * 10)
    place 400 0 num

/-- A positive fraction divided by `10 ^ exponent`. -/
def tenScaled (num den : Nat) (exponent : Int) : Nat × Nat :=
  match exponent with
  | .ofNat e => (num, den * Nat.pow 10 e)
  | .negSucc e => (num * Nat.pow 10 (e + 1), den)

/-- Of the two neighbours with the unit `10 ^ unit` that read back as `value`, the nearer one; of
two equally near ones the even one. -/
def neighbour? (value : Binary64) (num den : Nat) (unit : Int) : Option Nat :=
  let grid := tenScaled num den unit
  let low := grid.1 / grid.2
  let twice := 2 * (grid.1 % grid.2)
  let lowReads := Binary64.ofDecimal false low unit = value
  let highReads := Binary64.ofDecimal false (low + 1) unit = value
  if lowReads ∧ highReads then
    if twice < grid.2 ∨ (twice = grid.2 ∧ low % 2 = 0) then some low else some (low + 1)
  else if lowReads then some low
  else if highReads then some (low + 1)
  else none

/-- Try more and more digits, from `count` on. -/
def searchDigits (value : Binary64) (num den : Nat) (lead : Int) :
    (fuel : Nat) → (count : Nat) → Nat × Int
  | 0, count => (num / den, lead - count)
  | fuel + 1, count =>
    let unit := lead - count
    match neighbour? value num den unit with
    | some digits => (digits, unit)
    | none => searchDigits value num den lead fuel (count + 1)

def dropTrailingZeros (digits : List Char) : List Char :=
  (digits.reverse.dropWhile (· = '0')).reverse

/-- The shortest decimal of a positive number. -/
def shortest (mantissa : Nat) (exponent : Int) : Scientific :=
  let fraction := Binary64.fraction mantissa exponent
  let found := searchDigits (.finite false mantissa exponent) fraction.1 fraction.2
    (leadingExponent fraction.1 fraction.2) 18 0
  let digits := Nat.toDigits 10 found.1
  ⟨dropTrailingZeros digits, found.2 + digits.length - 1⟩

/-- How a number is laid out around its digits. -/
structure Layout where
  /-- The least exponent that is written positionally. -/
  positionalFrom : Int
  /-- The greatest exponent that is written positionally. -/
  positionalTo : Int
  /-- The least number of digits of an exponent. -/
  exponentWidth : Nat
  nan : String
  infinity : String
  deriving DecidableEq, Repr

def padded (width : Nat) (digits : List Char) : List Char :=
  List.replicate (width - digits.length) '0' ++ digits

/-- Digits with a point and at least one digit on each side of it. -/
def positional (s : Scientific) : List Char :=
  match s.exponent with
  | .negSucc e => '0' :: '.' :: (List.replicate e '0' ++ s.digits)
  | .ofNat e =>
    let whole := s.digits.take (e + 1)
    let rest := s.digits.drop (e + 1)
    whole ++ List.replicate (e + 1 - whole.length) '0' ++ '.' :: (if rest = [] then ['0'] else rest)

/-- A digit, a point when more follow, and a signed exponent. -/
def exponential (width : Nat) (s : Scientific) : List Char :=
  let tail := s.digits.drop 1
  let power := if s.exponent < 0 then '-' :: padded width (Text.ofNat s.exponent.natAbs)
    else '+' :: padded width (Text.ofNat s.exponent.natAbs)
  s.digits.take 1 ++ (if tail = [] then [] else '.' :: tail) ++ 'e' :: power

def render (layout : Layout) : Binary64 → List Char
  | .nan => layout.nan.toList
  | .infinite negative => (if negative then ['-'] else []) ++ layout.infinity.toList
  | .finite negative mantissa exponent =>
    (if negative then ['-'] else []) ++
      if mantissa = 0 then ['0', '.', '0']
      else
        let s := shortest mantissa exponent
        if layout.positionalFrom ≤ s.exponent ∧ s.exponent ≤ layout.positionalTo then positional s
        else exponential layout.exponentWidth s

end Bindery.Decimal
