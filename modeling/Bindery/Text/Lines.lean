/-!
# Lines

Two readings of line ends: `splitLines` cuts at every character that ends a line in Unicode text,
`unifyLineEnds` is what a text file goes through when it is read.
-/
namespace Bindery.Text

/-- Line feed, carriage return, vertical tab, form feed, the file, group and record separators,
next line, and the line and paragraph separators. -/
def isLineEnd (c : Char) : Bool :=
  c.toNat ∈ [0x0A, 0x0B, 0x0C, 0x0D, 0x1C, 0x1D, 0x1E, 0x85, 0x2028, 0x2029]

/-- The lines of a text without their ends. A carriage return takes a following line feed with
it, and nothing follows the last end. -/
def splitLines : List Char → List (List Char)
  | [] => []
  | '\r' :: '\n' :: rest => [] :: splitLines rest
  | c :: rest =>
    if isLineEnd c then [] :: splitLines rest
    else match splitLines rest with
      | [] => [[c]]
      | line :: lines => (c :: line) :: lines

/-- Write every line end of a file as a line feed. -/
def unifyLineEnds : List Char → List Char
  | [] => []
  | '\r' :: '\n' :: rest => '\n' :: unifyLineEnds rest
  | '\r' :: rest => '\n' :: unifyLineEnds rest
  | c :: rest => c :: unifyLineEnds rest

end Bindery.Text
