import Bindery.Decimal.Shortest
import Bindery.Json.Basic
import Bindery.Order
import Bindery.Text.Utf8
/-!
# Writing JSON

The canonical text of a value has the members of every object in the order of their keys and no
space outside strings, so that equal values have one text. The other forms are the canonical one
with every character outside printable ASCII as an escape, and an indented form of that.

`compact`, `canonical`, `ascii` and `indented` lay out every value. The canonical text is handed out
by `canonicalText`, which refuses a value with an integer of more than `maxDigits` digits; the other
two forms are for output whose integers were read or counted.
-/
namespace Bindery.Json

/-- Positional from `1e-4` up to `1e16`, at least one digit after the point, and an exponent of at
least two digits. -/
def numberLayout : Decimal.Layout := ⟨-4, 15, 2, "NaN", "Infinity"⟩

def unitEscape (n : Nat) : List Char := '\\' :: 'u' :: Text.hex 4 n

/-- A character of a string: the quote, the backslash and the controls are escaped. -/
def escapeChar (c : Char) : List Char :=
  if c = '"' then ['\\', '"']
  else if c = '\\' then ['\\', '\\']
  else if c = '\n' then ['\\', 'n']
  else if c = '\r' then ['\\', 'r']
  else if c = '\t' then ['\\', 't']
  else if c = '\x08' then ['\\', 'b']
  else if c = '\x0c' then ['\\', 'f']
  else if c.toNat < 0x20 then unitEscape c.toNat
  else [c]

/-- A character of a string in printable ASCII; above the basic plane it is a surrogate pair. -/
def escapeAscii (c : Char) : List Char :=
  if c.toNat < 0x7F then escapeChar c
  else if c.toNat < 0x10000 then unitEscape c.toNat
  else
    unitEscape (0xD800 + (c.toNat - 0x10000) / 0x400) ++
      unitEscape (0xDC00 + (c.toNat - 0x10000) % 0x400)

def stringChars (escape : Char → List Char) (s : String) : List Char :=
  '"' :: s.toList.flatMap escape ++ ['"']

def boolChars (b : Bool) : List Char := if b then "true".toList else "false".toList

mutual

/-- A value with the members of every object in the order of their keys. -/
def sortMembers : Json → Json
  | .arr elements => .arr (sortElements elements)
  | .obj members => .obj (Order.sortBy (Order.on Prod.fst Order.compareText) (sortValues members))
  | .null => .null
  | .bool b => .bool b
  | .int n => .int n
  | .float x => .float x
  | .str s => .str s

def sortElements : List Json → List Json
  | [] => []
  | element :: rest => sortMembers element :: sortElements rest

def sortValues : List (String × Json) → List (String × Json)
  | [] => []
  | (key, value) :: rest => (key, sortMembers value) :: sortValues rest

end

mutual

/-- A value without spaces, its members in the order they have. -/
def compact (escape : Char → List Char) : Json → List Char
  | .null => "null".toList
  | .bool b => boolChars b
  | .int n => Text.ofInt n
  | .float x => Decimal.render numberLayout x
  | .str s => stringChars escape s
  | .arr elements => '[' :: compactElements escape elements ++ [']']
  | .obj members => '\x7b' :: compactMembers escape members ++ ['\x7d']

def compactElements (escape : Char → List Char) : List Json → List Char
  | [] => []
  | element :: rest => compact escape element ++ compactMoreElements escape rest

def compactMoreElements (escape : Char → List Char) : List Json → List Char
  | [] => []
  | element :: rest => ',' :: compact escape element ++ compactMoreElements escape rest

def compactMembers (escape : Char → List Char) : List (String × Json) → List Char
  | [] => []
  | (key, value) :: rest =>
    stringChars escape key ++ ':' :: compact escape value ++ compactMoreMembers escape rest

def compactMoreMembers (escape : Char → List Char) : List (String × Json) → List Char
  | [] => []
  | (key, value) :: rest =>
    ',' :: stringChars escape key ++ ':' :: compact escape value ++ compactMoreMembers escape rest

end

def canonicalChars (j : Json) : List Char := compact escapeChar (sortMembers j)

def canonical (j : Json) : String := String.ofList (canonicalChars j)

/-- Why a value has no text. -/
inductive Unwritable where
  /-- An integer in it has more than `maxDigits` digits. -/
  | longInteger
  deriving DecidableEq, Repr

def Unwritable.message : Unwritable → String
  | .longInteger => digitLimit ++ digitAdvice

mutual

/-- Whether every integer in a value has at most `maxDigits` digits. -/
def isWritable : Json → Bool
  | .int n => decide ((Text.ofNat n.natAbs).length ≤ maxDigits)
  | .arr elements => areWritable elements
  | .obj members => haveWritable members
  | .null | .bool _ | .float _ | .str _ => true

def areWritable : List Json → Bool
  | [] => true
  | element :: rest => isWritable element && areWritable rest

def haveWritable : List (String × Json) → Bool
  | [] => true
  | (_, value) :: rest => isWritable value && haveWritable rest

end

/-- The canonical text, unless an integer is too long for it. -/
def canonicalText (j : Json) : Except Unwritable String :=
  if j.isWritable then .ok j.canonical else .error .longInteger

/-- The canonical text in UTF-8. -/
def canonicalBytes (j : Json) : Except Unwritable (List UInt8) :=
  j.canonicalText.map fun text => Utf8.encodeChars text.toList

/-- The canonical form in printable ASCII. -/
def ascii (j : Json) : String := String.ofList (compact escapeAscii (sortMembers j))

def newLine (depth : Nat) : List Char := '\n' :: List.replicate (2 * depth) ' '

mutual

/-- A value with one member or element to a line, two spaces for each level. -/
def spread (depth : Nat) : Json → List Char
  | .arr [] => ['[', ']']
  | .arr (element :: rest) =>
    '[' :: newLine (depth + 1) ++ spread (depth + 1) element ++ spreadElements depth rest
  | .obj [] => ['\x7b', '\x7d']
  | .obj ((key, value) :: rest) =>
    '\x7b' :: newLine (depth + 1) ++ stringChars escapeAscii key ++ ':' :: ' ' ::
      spread (depth + 1) value ++ spreadMembers depth rest
  | .null => "null".toList
  | .bool b => boolChars b
  | .int n => Text.ofInt n
  | .float x => Decimal.render numberLayout x
  | .str s => stringChars escapeAscii s

def spreadElements (depth : Nat) : List Json → List Char
  | [] => newLine depth ++ [']']
  | element :: rest =>
    ',' :: newLine (depth + 1) ++ spread (depth + 1) element ++ spreadElements depth rest

def spreadMembers (depth : Nat) : List (String × Json) → List Char
  | [] => newLine depth ++ ['\x7d']
  | (key, value) :: rest =>
    ',' :: newLine (depth + 1) ++ stringChars escapeAscii key ++ ':' :: ' ' ::
      spread (depth + 1) value ++ spreadMembers depth rest

end

def indented (j : Json) : String := String.ofList (spread 0 (sortMembers j))

end Bindery.Json
