import Bindery.Text.Quoted
/-!
# Tokens of a legacy interface file

Words, string literals, numbers and punctuation. Which words are keywords depends on where they
stand, so a token is classified for a `Context`.
-/
namespace Bindery.Legacy

/-- A line and a column, both counted from one. -/
structure Mark where
  line : Nat := 1
  column : Nat := 1
  deriving DecidableEq, Repr, Inhabited

def Mark.after (m : Mark) (c : Char) : Mark :=
  if c = '\n' then ⟨m.line + 1, 1⟩ else ⟨m.line, m.column + 1⟩

/-- The mark behind a stretch of text. -/
def Mark.afterAll (m : Mark) (text : List Char) : Mark := text.foldl Mark.after m

inductive Keyword where
  | namespaceWord | dictionary | enum | interface | callback | typedef
  | externWord | constructor | void | sequence | record
  deriving DecidableEq, Repr

namespace Keyword

def all : List Keyword :=
  [namespaceWord, dictionary, enum, interface, callback, typedef, externWord, constructor, void,
    sequence, record]

def spelling : Keyword → String
  | namespaceWord => "namespace"
  | dictionary => "dictionary"
  | enum => "enum"
  | interface => "interface"
  | callback => "callback"
  | typedef => "typedef"
  | externWord => "extern"
  | constructor => "constructor"
  | void => "void"
  | sequence => "sequence"
  | record => "record"

/-- The name of a keyword in messages. -/
def terminal : Keyword → String
  | namespaceWord => "NAMESPACE"
  | dictionary => "DICTIONARY"
  | enum => "ENUM"
  | interface => "INTERFACE"
  | callback => "CALLBACK"
  | typedef => "TYPEDEF"
  | externWord => "EXTERN"
  | constructor => "CONSTRUCTOR"
  | void => "VOID"
  | sequence => "SEQUENCE"
  | record => "RECORD"

end Keyword

inductive Punctuation where
  | openBrace | closeBrace | openParen | closeParen | openBracket | closeBracket
  | less | greater | comma | semicolon | equal | question
  deriving DecidableEq, Repr

namespace Punctuation

def all : List Punctuation :=
  [openBrace, closeBrace, openParen, closeParen, openBracket, closeBracket, less, greater, comma,
    semicolon, equal, question]

def char : Punctuation → Char
  | openBrace => '\x7b'
  | closeBrace => '\x7d'
  | openParen => '('
  | closeParen => ')'
  | openBracket => '['
  | closeBracket => ']'
  | less => '<'
  | greater => '>'
  | comma => ','
  | semicolon => ';'
  | equal => '='
  | question => '?'

def terminal : Punctuation → String
  | openBrace => "LBRACE"
  | closeBrace => "RBRACE"
  | openParen => "LPAR"
  | closeParen => "RPAR"
  | openBracket => "LSQB"
  | closeBracket => "RSQB"
  | less => "LESSTHAN"
  | greater => "MORETHAN"
  | comma => "COMMA"
  | semicolon => "SEMICOLON"
  | equal => "EQUAL"
  | question => "QMARK"

def ofChar? (c : Char) : Option Punctuation := all.find? (·.char = c)

end Punctuation

inductive TokenKind where
  | keyword (k : Keyword)
  | name
  | text
  | number
  | mark (p : Punctuation)
  | finish
  deriving DecidableEq, Repr

def TokenKind.terminal : TokenKind → String
  | keyword k => k.terminal
  | name => "NAME"
  | text => "STRING"
  | number => "NUMBER"
  | mark p => p.terminal
  | finish => "$END"

/-- A token with its spelling and the mark of its first character. -/
structure Token where
  kind : TokenKind
  lexeme : List Char
  mark : Mark
  deriving DecidableEq, Repr

/-- Which words are keywords in a place, and whether any other word may stand there. -/
structure Context where
  keywords : List Keyword
  names : Bool
  deriving DecidableEq, Repr

namespace Context

/-- At the start of a file and behind a definition. -/
def definition : Context :=
  ⟨[.namespaceWord, .dictionary, .enum, .interface, .callback, .typedef], false⟩

/-- Behind attributes, wherever they stand. -/
def attributed : Context :=
  ⟨[.namespaceWord, .dictionary, .enum, .interface, .callback, .typedef, .constructor, .void,
    .record, .sequence], true⟩

def callback : Context := ⟨[.interface], false⟩

def typedef : Context := ⟨[.externWord, .record, .sequence], true⟩

/-- At the start of a body that holds functions only. -/
def functions : Context := ⟨[.void, .record, .sequence], true⟩

/-- Among the members of an interface, and behind any function. -/
def members : Context := ⟨[.constructor, .void, .record, .sequence], true⟩

/-- Where a type or a field starts. -/
def types : Context := ⟨[.record, .sequence], true⟩

/-- Where any word is a name. -/
def word : Context := ⟨[], true⟩

/-- Where no word may stand. -/
def none : Context := ⟨[], false⟩

/-- Every keyword, and names. -/
def any : Context := ⟨Keyword.all, true⟩

end Context
end Bindery.Legacy
