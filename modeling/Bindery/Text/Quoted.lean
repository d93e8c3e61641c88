import Bindery.Text.Pieces
import Bindery.Text.Printable
/-!
# Quoted literals

Text and bytes as literals between quotes. The apostrophe is the quote unless the content holds an
apostrophe and no double quote. A backslash, the quote in use and whatever is not printable are
written as escapes, so that no two contents have one literal.
-/
namespace Bindery.Text

def apostrophe : Char := Char.ofNat 39

/-- The quote for a content. -/
def quoteFor (content : List Char) : Char :=
  if apostrophe ∈ content ∧ '"' ∉ content then '"' else apostrophe

/-- One character of a text literal. -/
def escapeChar (quote c : Char) : List Char :=
  if c = '\\' ∨ c = quote then ['\\', c]
  else if c = '\n' then ['\\', 'n']
  else if c = '\r' then ['\\', 'r']
  else if c = '\t' then ['\\', 't']
  else if isPrintable c then [c]
  else if c.toNat < 0x100 then '\\' :: 'x' :: hex 2 c.toNat
  else if c.toNat < 0x10000 then '\\' :: 'u' :: hex 4 c.toNat
  else '\\' :: 'U' :: hex 8 c.toNat

def quotedChars (content : List Char) : List Char :=
  let quote := quoteFor content
  quote :: content.flatMap (escapeChar quote) ++ [quote]

def quoted (content : String) : String := String.ofList (quotedChars content.toList)

/-- One byte of a byte literal: the escapes of text, with the printable ASCII range as it is. -/
def escapeByte (quote : Char) (b : UInt8) : List Char :=
  let c := Char.ofNat b.toNat
  if c = '\\' ∨ c = quote then ['\\', c]
  else if c = '\n' then ['\\', 'n']
  else if c = '\r' then ['\\', 'r']
  else if c = '\t' then ['\\', 't']
  else if 0x20 ≤ b.toNat ∧ b.toNat < 0x7F then [c]
  else '\\' :: 'x' :: hex 2 b.toNat

def quotedBytes (content : List UInt8) : String :=
  let quote := quoteFor (content.map fun b => Char.ofNat b.toNat)
  String.ofList ('b' :: quote :: content.flatMap (escapeByte quote) ++ [quote])

end Bindery.Text
