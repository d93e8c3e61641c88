/-!
# Pieces of text

Cutting and joining texts as lists of characters.
-/
namespace Bindery.Text

/-- The text in front of the first `sep`, and what follows it when there is one. -/
def cut (sep : Char) : List Char → List Char × Option (List Char)
  | [] => ([], none)
  | c :: rest =>
    if c = sep then ([], some rest)
    else ((c :: (cut sep rest).1), (cut sep rest).2)

/-- Cut at every `sep`. -/
def splitAt (sep : Char) : List Char → List (List Char)
  | [] => [[]]
  | c :: rest =>
    if c = sep then [] :: splitAt sep rest
    else match splitAt sep rest with
      | [] => [[c]]
      | piece :: pieces => (c :: piece) :: pieces

def join (sep : String) : List String → String
  | [] => ""
  | [s] => s
  | s :: rest => s ++ sep ++ join sep rest

/-- The rest of a text that starts with `head`. -/
def dropHead? : List Char → List Char → Option (List Char)
  | [], text => some text
  | _ :: _, [] => none
  | h :: head, c :: text => if h = c then dropHead? head text else none

/-- The start of a text that ends with `tail`. -/
def dropTail? (tail text : List Char) : Option (List Char) :=
  (dropHead? tail.reverse text.reverse).map List.reverse

/-- A digit of base sixteen, in lower case. -/
def hexDigit (n : Nat) : Char :=
  if n < 10 then Char.ofNat (48 + n) else Char.ofNat (87 + n)

/-- The last `width` digits of a number in base sixteen. -/
def hex : (width : Nat) → Nat → List Char
  | 0, _ => []
  | width + 1, n => hex width (n / 16) ++ [hexDigit (n % 16)]

def hexValue? (c : Char) : Option Nat :=
  if 48 ≤ c.toNat ∧ c.toNat ≤ 57 then some (c.toNat - 48)
  else if 97 ≤ c.toNat ∧ c.toNat ≤ 102 then some (c.toNat - 87)
  else if 65 ≤ c.toNat ∧ c.toNat ≤ 70 then some (c.toNat - 55)
  else none

def isDigit (c : Char) : Bool := decide (48 ≤ c.toNat ∧ c.toNat ≤ 57)

def ofNat (n : Nat) : List Char := Nat.toDigits 10 n

/-- The digits of an integer, however many they are. The limit on digits is set where JSON is read
and written. -/
def ofInt : Int → List Char
  | .ofNat n => ofNat n
  | .negSucc n => '-' :: ofNat (n + 1)

@[simp] theorem length_hex (width n : Nat) : (hex width n).length = width := by
  induction width generalizing n with
  | zero => rfl
  | succ width ih => simp [hex, ih]

theorem dropHead?_append (head text : List Char) : dropHead? head (head ++ text) = some text := by
  induction head with
  | nil => rfl
  | cons h head ih => simp [dropHead?, ih]

end Bindery.Text
