import Bindery.Legacy.Token
/-!
# Reading tokens

The next token of a text in a context. White space and comments stand between tokens. Where names
may stand the longest word is read, and it is a keyword only if the whole word is one; elsewhere a
keyword is read off the front of whatever follows.
-/
namespace Bindery.Legacy

def isBlank (c : Char) : Bool := c ∈ [' ', '\t', '\x0c', '\r', '\n']

def isWordStart (c : Char) : Bool :=
  decide (65 ≤ c.toNat ∧ c.toNat ≤ 90) || decide (97 ≤ c.toNat ∧ c.toNat ≤ 122) || c = '_'

def isWordChar (c : Char) : Bool := isWordStart c || Text.isDigit c

/-- The rest of a block comment with its end, and what follows it. -/
def blockComment : List Char → Option (List Char × List Char)
  | [] => none
  | '*' :: '/' :: rest => some (['*', '/'], rest)
  | c :: rest => (blockComment rest).map fun found => (c :: found.1, found.2)

/-- White space or a comment at the start of a text, and what follows it. -/
def blank? : List Char → Option (List Char × List Char)
  | '/' :: '/' :: rest =>
    some ('/' :: '/' :: rest.takeWhile (· ≠ '\n'), rest.dropWhile (· ≠ '\n'))
  | '/' :: '*' :: rest =>
    (blockComment rest).map fun found => ('/' :: '*' :: found.1, found.2)
  | c :: rest => if isBlank c then some ([c], rest) else none
  | [] => none

/-- A text from a mark on. -/
structure Cursor where
  rest : List Char
  mark : Mark := {}
  deriving DecidableEq, Repr

/-- Go on behind a stretch of text. -/
def Cursor.pass (c : Cursor) (stretch rest : List Char) : Cursor := ⟨rest, c.mark.afterAll stretch⟩

def skipBlanks : (fuel : Nat) → Cursor → Cursor
  | 0, c => c
  | fuel + 1, c =>
    match blank? c.rest with
    | none => c
    | some (stretch, rest) => skipBlanks fuel (c.pass stretch rest)

/-- The content of a string literal with its closing quote, and what follows it. A backslash takes
the next character with it; a literal ends on its line. -/
def literalBody : List Char → Option (List Char × List Char)
  | [] => none
  | '"' :: rest => some (['"'], rest)
  | '\n' :: _ => none
  | '\\' :: '\n' :: _ => none
  | '\\' :: c :: rest => (literalBody rest).map fun found => ('\\' :: c :: found.1, found.2)
  | c :: rest => (literalBody rest).map fun found => (c :: found.1, found.2)

def literal? : List Char → Option (List Char × List Char)
  | '"' :: rest => (literalBody rest).map fun found => ('"' :: found.1, found.2)
  | _ => none

/-- Digits behind a point, when both follow. -/
def fractionPart (s : List Char) : List Char :=
  match s with
  | '.' :: rest =>
    let digits := rest.takeWhile Text.isDigit
    if digits = [] then [] else '.' :: digits
  | _ => []

def number? (s : List Char) : Option (List Char × List Char) :=
  let (sign, rest) : List Char × List Char := match s with
    | '-' :: rest => (['-'], rest)
    | rest => ([], rest)
  let digits := rest.takeWhile Text.isDigit
  if digits = [] then none
  else
    let rest := rest.drop digits.length
    let fraction := fractionPart rest
    some (sign ++ digits ++ fraction, rest.drop fraction.length)

/-- What a word is where names may stand: one of the keywords, or a name. -/
def wordKind (keywords : List Keyword) (word : List Char) : TokenKind :=
  match keywords.find? (·.spelling.toList = word) with
  | some k => .keyword k
  | none => .name

/-- A word where names may stand. -/
def word? (keywords : List Keyword) (s : List Char) : Option (TokenKind × List Char × List Char) :=
  match s with
  | [] => none
  | c :: _ =>
    if isWordStart c then
      let word := s.takeWhile isWordChar
      some (wordKind keywords word, word, s.dropWhile isWordChar)
    else none

/-- A keyword at the front of a text. -/
def keyword? (keywords : List Keyword) (s : List Char) :
    Option (TokenKind × List Char × List Char) :=
  keywords.findSome? fun k =>
    (Text.dropHead? k.spelling.toList s).map fun rest => (.keyword k, k.spelling.toList, rest)

/-- A token that is no word. -/
def symbol? (s : List Char) : Option (TokenKind × List Char × List Char) :=
  match literal? s with
  | some (lexeme, rest) => some (.text, lexeme, rest)
  | none =>
    match number? s with
    | some (lexeme, rest) => some (.number, lexeme, rest)
    | none =>
      match s with
      | [] => none
      | c :: rest => (Punctuation.ofChar? c).map fun p => (.mark p, [c], rest)

def tokenIn (ctx : Context) (s : List Char) : Option (TokenKind × List Char × List Char) :=
  let words := if ctx.names then word? ctx.keywords s else keyword? ctx.keywords s
  match words with
  | some found => some found
  | none => symbol? s

/-- A token for a context. One that the context does not know is read with all keywords, so that it
can be reported. -/
def token? (ctx : Context) (s : List Char) : Option (TokenKind × List Char × List Char) :=
  match tokenIn ctx s with
  | some found => some found
  | none => tokenIn .any s

end Bindery.Legacy
