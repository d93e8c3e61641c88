import Bindery.Text.Pieces
/-!
# Computed names

Ideographs and a few other characters are named by the number of their code point. A Hangul
syllable is named by the spelling of its sounds.
-/
namespace Bindery.Text.CharName

/-- A number in base sixteen. -/
def number? (digits : List Char) : Option Nat :=
  digits.foldlM (fun n c => (hexValue? c).map (n * 16 + ·)) 0

/-- The first and the last code points of the blocks of unified ideographs. -/
def unifiedIdeographs : List (Nat × Nat) := [
  (0x3400, 0x4DBF), (0x4E00, 0x9FFF), (0x20000, 0x2A6DF), (0x2A700, 0x2B738), (0x2B740, 0x2B81D),
  (0x2B820, 0x2CEA1), (0x2CEB0, 0x2EBE0), (0x30000, 0x3134A)]

/-- A unified ideograph has four or five digits, of which the first of five may be zero. The case of
letters counts. -/
def ideograph? (name : List Char) : Option Nat :=
  match dropHead? "CJK UNIFIED IDEOGRAPH-".toList name with
  | none => none
  | some digits =>
    if (digits.length = 4 ∨ digits.length = 5) ∧ digits.all (!·.isLower) then
      (number? digits).filter fun point =>
        unifiedIdeographs.any fun block => decide (block.1 ≤ point ∧ point ≤ block.2)
    else none

/-- Blocks of characters that are named by their number: what stands in front of it, and the first
and the last code point. -/
def numbered : List (String × Nat × Nat) := [
  ("CJK COMPATIBILITY IDEOGRAPH-", 0xF900, 0xFA6D),
  ("CJK COMPATIBILITY IDEOGRAPH-", 0xFA70, 0xFAD9),
  ("KHITAN SMALL SCRIPT CHARACTER-", 0x18B00, 0x18CD5),
  ("NUSHU CHARACTER-", 0x1B170, 0x1B2FB),
  ("CJK COMPATIBILITY IDEOGRAPH-", 0x2F800, 0x2FA1D)]

/-- A character that is named by its number, which starts with no zero. -/
def numbered? (spelling : List Char) : Option Nat :=
  numbered.findSome? fun (stem, first, last) =>
    match dropHead? stem.toList spelling with
    | none => none
    | some digits =>
      if digits.head? = some '0' then none
      else (number? digits).filter fun point => decide (first ≤ point ∧ point ≤ last)

/-- The spellings of the first sound of a syllable. -/
def leads : List String :=
  ["G", "GG", "N", "D", "DD", "R", "M", "B", "BB", "S", "SS", "", "J", "JJ", "C", "K", "T", "P",
    "H"]

/-- The spellings of the middle sound. -/
def vowels : List String :=
  ["A", "AE", "YA", "YAE", "EO", "E", "YEO", "YE", "O", "WA", "WAE", "OE", "YO", "U", "WEO", "WE",
    "WI", "YU", "EU", "YI", "I"]

/-- The spellings of the last sound, of which there may be none. -/
def tails : List String :=
  ["", "G", "GG", "GS", "N", "NJ", "NH", "D", "L", "LG", "LM", "LB", "LS", "LT", "LP", "LH", "M",
    "B", "BS", "S", "SS", "NG", "J", "C", "K", "T", "P", "H"]

/-- The place of the longest spelling that a text starts with, and the rest of the text. -/
def longest? (spellings : List String) (text : List Char) : Option (Nat × List Char) :=
  spellings.zipIdx.foldl
    (fun best (spelling, place) =>
      match dropHead? spelling.toList text, best with
      | none, _ => best
      | some rest, none => some (place, rest)
      | some rest, some (_, other) =>
        if rest.length < other.length then some (place, rest) else best)
    none

/-- A Hangul syllable. The case of letters counts. -/
def syllable? (name : List Char) : Option Nat := do
  let sounds ← dropHead? "HANGUL SYLLABLE ".toList name
  let (lead, sounds) ← longest? leads sounds
  let (vowel, sounds) ← longest? vowels sounds
  let (tail, sounds) ← longest? tails sounds
  if sounds = [] then some (0xAC00 + (lead * vowels.length + vowel) * tails.length + tail)
  else none

end Bindery.Text.CharName
