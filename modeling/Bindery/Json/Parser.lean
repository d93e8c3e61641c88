import Bindery.Json.Basic
import Bindery.Table
import Bindery.Text.Pieces
/-!
# Reading JSON

A reader of JSON text that reports the first fault with its place. Besides the standard it accepts
the numbers `NaN`, `Infinity` and `-Infinity`. Of several members with one key the first gives the
place and the last the value. An integer may have only so many digits, and half of a surrogate pair
is refused.

Every reader takes the text that is left and returns what it leaves; a fault holds the text from
the place of the fault on, so that a place is the length of what stands before it.
-/
namespace Bindery.Json

/-- What a reader missed. -/
inductive Lack where
  | value | extraData | propertyName | colon | comma | unterminated | badEscape | badUnicodeEscape
  | controlCharacter | byteOrderMark
  /-- An escape is half of a surrogate pair without the other half. A text does not hold half pairs,
  so they are refused here; that is a limit of the texts, not a rule of JSON. -/
  | halfPair
  /-- An integer of that many digits is refused, though it is good JSON. -/
  | longInteger (digits : Nat)
  deriving DecidableEq, Repr

def Lack.message : Lack → String
  | .value => "Expecting value"
  | .extraData => "Extra data"
  | .propertyName => "Expecting property name enclosed in double quotes"
  | .colon => "Expecting ':' delimiter"
  | .comma => "Expecting ',' delimiter"
  | .unterminated => "Unterminated string starting at"
  | .badEscape => "Invalid \\escape"
  | .badUnicodeEscape => "Invalid \\uXXXX escape"
  | .controlCharacter => "Invalid control character at"
  | .byteOrderMark => "Unexpected UTF-8 BOM (decode using utf-8-sig)"
  | .halfPair => "surrogates not allowed"
  | .longInteger digits =>
    digitLimit ++ ": value has " ++ toString digits ++ " digits" ++ digitAdvice

/-- Whether the text is no JSON. -/
def Lack.isSyntax : Lack → Bool
  | .longInteger _ | .halfPair => false
  | _ => true

/-- A lack and the text from its place on. -/
structure Stop where
  lack : Lack
  rest : List Char
  deriving DecidableEq, Repr

abbrev Reader (α : Type) := List Char → Except Stop (α × List Char)

def isSpace (c : Char) : Bool := c = ' ' || c = '\t' || c = '\n' || c = '\r'

def skipSpace (s : List Char) : List Char := s.dropWhile isSpace

/-- Four digits of base sixteen. They must not be the last characters of the text. -/
def hexCode? : List Char → Option (Nat × List Char)
  | a :: b :: c :: d :: rest =>
    match Text.hexValue? a, Text.hexValue? b, Text.hexValue? c, Text.hexValue? d with
    | some a, some b, some c, some d =>
      if rest.isEmpty then none else some (((a * 16 + b) * 16 + c) * 16 + d, rest)
    | _, _, _, _ => none
  | _ => none

def isHighSurrogate (n : Nat) : Bool := decide (0xD800 ≤ n ∧ n ≤ 0xDBFF)

def isLowSurrogate (n : Nat) : Bool := decide (0xDC00 ≤ n ∧ n ≤ 0xDFFF)

/-- The character of a code unit that stands alone between `s` and `rest`; half of a surrogate pair
is none. -/
def ofUnit (s : List Char) (unit : Nat) (rest : List Char) : Except Stop (Char × List Char) :=
  if isHighSurrogate unit || isLowSurrogate unit then .error ⟨.halfPair, s⟩
  else .ok (Char.ofNat unit, rest)

/-- The character of an escape, from the `u` on. Two escapes that spell a surrogate pair are one
character. -/
def unicodeEscape (s : List Char) : Except Stop (Char × List Char) :=
  match hexCode? (s.drop 1) with
  | none => .error ⟨.badUnicodeEscape, s⟩
  | some (unit, rest) =>
    match isHighSurrogate unit, rest with
    | true, '\\' :: 'u' :: more =>
      if more.length ≤ 4 then ofUnit s unit rest
      else match hexCode? more with
        | none => .error ⟨.badUnicodeEscape, 'u' :: more⟩
        | some (low, after) =>
          if isLowSurrogate low then
            .ok (Char.ofNat (0x10000 + (unit - 0xD800) * 0x400 + (low - 0xDC00)), after)
          else ofUnit s unit rest
    | _, _ => ofUnit s unit rest

/-- The character of an escape with one letter. -/
def shortEscape? (c : Char) : Option Char :=
  if c = '"' then some '"'
  else if c = '\\' then some '\\'
  else if c = '/' then some '/'
  else if c = 'b' then some '\x08'
  else if c = 'f' then some '\x0c'
  else if c = 'n' then some '\n'
  else if c = 'r' then some '\r'
  else if c = 't' then some '\t'
  else none

/-- The content of a string up to its closing quote; `opening` starts with the opening quote. -/
def stringBody (opening : List Char) : (fuel : Nat) → Reader (List Char)
  | 0, _ => .error ⟨.unterminated, opening⟩
  | _ + 1, [] => .error ⟨.unterminated, opening⟩
  | fuel + 1, c :: rest =>
    if c = '"' then .ok ([], rest)
    else if c = '\\' then
      match rest with
      | [] => .error ⟨.unterminated, opening⟩
      | e :: after =>
        if e = 'u' then do
          let (char, left) ← unicodeEscape rest
          let (chars, left) ← stringBody opening fuel left
          pure (char :: chars, left)
        else match shortEscape? e with
          | none => .error ⟨.badEscape, c :: rest⟩
          | some char => do
            let (chars, left) ← stringBody opening fuel after
            pure (char :: chars, left)
    else if c.toNat < 0x20 then .error ⟨.controlCharacter, c :: rest⟩
    else do
      let (chars, left) ← stringBody opening fuel rest
      pure (c :: chars, left)

/-- A string, from the text after its opening quote. -/
def string (rest : List Char) : Except Stop (String × List Char) := do
  let (chars, left) ← stringBody ('"' :: rest) (rest.length + 1) rest
  pure (String.ofList chars, left)

def digitsValue (digits : List Char) : Nat := Nat.ofDigitChars 10 digits 0

/-- The whole part of a number: zero alone, or digits that do not start with zero. -/
def wholeDigits (s : List Char) : List Char × List Char :=
  match s with
  | '0' :: rest => (['0'], rest)
  | _ => (s.takeWhile Text.isDigit, s.dropWhile Text.isDigit)

/-- The digits after a point, when a point and a digit follow. -/
def pointDigits? : List Char → Option (List Char × List Char)
  | '.' :: rest =>
    let digits := rest.takeWhile Text.isDigit
    if digits.isEmpty then none else some (digits, rest.dropWhile Text.isDigit)
  | _ => none

/-- The power of ten of a number, when one follows. -/
def power? : List Char → Option (Int × List Char)
  | c :: rest =>
    if c = 'e' || c = 'E' then
      let (sign, rest) : Int × List Char := match rest with
        | '+' :: rest => (1, rest)
        | '-' :: rest => (-1, rest)
        | rest => (1, rest)
      let digits := rest.takeWhile Text.isDigit
      if digits.isEmpty then none
      else some (sign * digitsValue digits, rest.dropWhile Text.isDigit)
    else none
  | [] => none

/-- A number: an integer, or a binary64 number when a point or a power of ten follows. -/
def number (s : List Char) : Except Stop (Json × List Char) :=
  let (negative, rest) : Bool × List Char := match s with
    | '-' :: rest => (true, rest)
    | rest => (false, rest)
  let (whole, rest) := wholeDigits rest
  if whole.isEmpty then .error ⟨.value, s⟩
  else
    let point := pointDigits? rest
    let places := (point.map Prod.fst).getD []
    let rest := (point.map Prod.snd).getD rest
    let power := power? rest
    if point.isNone && power.isNone then
      if maxDigits < whole.length then .error ⟨.longInteger whole.length, s⟩
      else
        let magnitude : Int := digitsValue whole
        .ok (.int (if negative then -magnitude else magnitude), rest)
    else
      let exponent : Int := (power.map Prod.fst).getD 0 - places.length
      .ok (.float (.ofDecimal negative (digitsValue (whole ++ places)) exponent),
        (power.map Prod.snd).getD rest)

/-- The values that are spelled by a word. -/
def words : List (String × Json) :=
  [("null", .null), ("true", .bool true), ("false", .bool false), ("NaN", .float .nan),
    ("Infinity", .float (.infinite false)), ("-Infinity", .float (.infinite true))]

def word? (s : List Char) : Option (Json × List Char) :=
  words.findSome? fun entry => (Text.dropHead? entry.1.toList s).map fun rest => (entry.2, rest)

def member (members : List (String × Json)) (key : String) (value : Json) : List (String × Json) :=
  storeEntry key value members

mutual

/-- A value at the start of the text. -/
def value : (fuel : Nat) → Reader Json
  | 0, s => .error ⟨.value, s⟩
  | fuel + 1, s =>
    match s with
    | '"' :: rest => (string rest).map fun read => (.str read.1, read.2)
    | '{' :: rest =>
      match skipSpace rest with
      | '}' :: rest => .ok (.obj [], rest)
      | inside => (members fuel [] inside).map fun read => (.obj read.1, read.2)
    | '[' :: rest =>
      match skipSpace rest with
      | ']' :: rest => .ok (.arr [], rest)
      | inside => (elements fuel inside).map fun read => (.arr read.1, read.2)
    | _ =>
      match word? s with
      | some read => .ok read
      | none => number s

/-- The members of an object from a key on, added to those that came before. -/
def members : (fuel : Nat) → List (String × Json) → Reader (List (String × Json))
  | 0, _, s => .error ⟨.value, s⟩
  | fuel + 1, before, s =>
    match s with
    | '"' :: rest => do
      let (key, rest) ← string rest
      match skipSpace rest with
      | ':' :: rest =>
        let (read, rest) ← value fuel (skipSpace rest)
        let known := member before key read
        match skipSpace rest with
        | '}' :: rest => pure (known, rest)
        | ',' :: rest => members fuel known (skipSpace rest)
        | other => throw ⟨.comma, other⟩
      | other => throw ⟨.colon, other⟩
    | other => .error ⟨.propertyName, other⟩

/-- The elements of an array from a value on. -/
def elements : (fuel : Nat) → Reader (List Json)
  | 0, s => .error ⟨.value, s⟩
  | fuel + 1, s => do
    let (read, rest) ← value fuel s
    match skipSpace rest with
    | ']' :: rest => pure ([read], rest)
    | ',' :: rest =>
      let (more, rest) ← elements fuel (skipSpace rest)
      pure (read :: more, rest)
    | other => throw ⟨.comma, other⟩

end

/-- A whole document: one value between optional spaces. -/
def document (text : List Char) : Except Stop Json :=
  match text with
  | '\uFEFF' :: _ => .error ⟨.byteOrderMark, text⟩
  | _ => do
    let (read, rest) ← value (2 * text.length + 2) (skipSpace text)
    match skipSpace rest with
    | [] => pure read
    | other => throw ⟨.extraData, other⟩

/-- A fault with its place: lines and columns count from one, the offset from zero. -/
structure Fault where
  lack : Lack
  line : Nat
  column : Nat
  offset : Nat
  deriving DecidableEq, Repr

/-- Faults of syntax are told with their place. -/
def Fault.message (f : Fault) : String :=
  if f.lack.isSyntax then
    f.lack.message ++ ": line " ++ toString f.line ++ " column " ++ toString f.column ++
      " (char " ++ toString f.offset ++ ")"
  else f.lack.message

def Stop.locate (text : List Char) (stop : Stop) : Fault :=
  let before := text.take (text.length - stop.rest.length)
  ⟨stop.lack, before.count '\n' + 1, (before.reverse.takeWhile (· ≠ '\n')).length + 1,
    before.length⟩

def parseChars (text : List Char) : Except Fault Json :=
  match document text with
  | .ok read => .ok read
  | .error stop => .error (stop.locate text)

def parse (text : String) : Except Fault Json := parseChars text.toList

end Bindery.Json
