import Bindery.Legacy.Lexer
/-!
# The grammar of a legacy interface file

The rules of the language as data, and what a derivation tree of them is. A rule stands here as it
is written down; how a file is read plays no part. The words of a tree are spelled out, so a tree
says which tokens a text has, but not where they stand or what is between them.
-/
namespace Bindery.Legacy

/-- A token by its kind and its characters. -/
structure Lexeme where
  kind : TokenKind
  text : List Char
  deriving DecidableEq, Repr

/-- What may stand between two quotes: a backslash takes the next character with it, any other
quote would end the literal, and a literal stands on one line. -/
inductive Escaped : List Char → Prop
  | nil : Escaped []
  | plain {c : Char} {rest : List Char} : c ≠ '"' → c ≠ '\\' → c ≠ '\n' → Escaped rest →
      Escaped (c :: rest)
  | escape {c : Char} {rest : List Char} : c ≠ '\n' → Escaped rest → Escaped ('\\' :: c :: rest)

def Digits (s : List Char) : Prop := s ≠ [] ∧ ∀ c ∈ s, Text.isDigit c = true

/-- How the tokens of a kind are spelled. The end of a text is no token of the grammar. -/
def Spelled : TokenKind → List Char → Prop
  | .keyword k, text => text = k.spelling.toList
  | .name, text =>
    ∃ c rest, text = c :: rest ∧ isWordStart c = true ∧ ∀ d ∈ rest, isWordChar d = true
  | .text, text => ∃ content, text = '"' :: (content ++ ['"']) ∧ Escaped content
  | .number, text =>
    ∃ sign whole fraction, text = sign ++ (whole ++ fraction) ∧ (sign = [] ∨ sign = ['-']) ∧
      Digits whole ∧ (fraction = [] ∨ ∃ digits, fraction = '.' :: digits ∧ Digits digits)
  | .mark p, text => text = [p.char]
  | .finish, _ => False

inductive Rule where
  | start | definition
  | namespaceDef | dictionaryDef | enumDef | enumValues | interfaceDef | callbackDef
  | typedefDef | typedefTarget
  | interfaceMember | constructorDecl | funcDecl | variantDecl | returnType
  | params | param
  | fieldDecl | fieldDefault | defaultValue
  | attributes | attr | attrValue
  | typeRef | optionalType | baseType | sequenceType | mapType | namedType
  deriving DecidableEq, Repr

inductive Symbol where
  | token (kind : TokenKind)
  | rule (r : Rule)
  deriving DecidableEq, Repr

/-- The right-hand side of a rule. -/
inductive Pattern where
  | empty
  | symbol (x : Symbol)
  | both (p q : Pattern)
  | either (p q : Pattern)
  | many (p : Pattern)
  deriving DecidableEq, Repr

namespace Pattern

abbrev token (kind : TokenKind) : Pattern := symbol (.token kind)

abbrev keyword (k : Keyword) : Pattern := token (.keyword k)

abbrev mark (p : Punctuation) : Pattern := token (.mark p)

abbrev rule (r : Rule) : Pattern := symbol (.rule r)

/-- Patterns one behind the other. -/
def chain : List Pattern → Pattern
  | [] => empty
  | [p] => p
  | p :: q :: rest => both p (chain (q :: rest))

/-- Any one of some patterns; there is at least one. -/
def oneOf (first : Pattern) : List Pattern → Pattern
  | [] => first
  | p :: rest => either first (oneOf p rest)

def maybe (p : Pattern) : Pattern := either empty p

/-- One and more of a symbol behind commas. -/
def commas (x : Symbol) : Pattern :=
  both (symbol x) (many (both (mark .comma) (symbol x)))

end Pattern

open Pattern in
def production : Rule → Pattern
  | .start => many (rule .definition)
  | .definition =>
    oneOf (rule .namespaceDef) [rule .dictionaryDef, rule .enumDef, rule .interfaceDef,
      rule .callbackDef, rule .typedefDef]
  | .namespaceDef =>
    chain [maybe (rule .attributes), keyword .namespaceWord, token .name, mark .openBrace,
      many (rule .funcDecl), mark .closeBrace, mark .semicolon]
  | .dictionaryDef =>
    chain [maybe (rule .attributes), keyword .dictionary, token .name, mark .openBrace,
      many (rule .fieldDecl), mark .closeBrace, mark .semicolon]
  | .enumDef =>
    chain [maybe (rule .attributes), keyword .enum, token .name, mark .openBrace,
      maybe (rule .enumValues), mark .closeBrace, mark .semicolon]
  | .enumValues => both (commas (.token .text)) (maybe (mark .comma))
  | .interfaceDef =>
    chain [maybe (rule .attributes), keyword .interface, token .name, mark .openBrace,
      many (rule .interfaceMember), mark .closeBrace, mark .semicolon]
  | .callbackDef =>
    chain [maybe (rule .attributes), keyword .callback, keyword .interface, token .name,
      mark .openBrace, many (rule .funcDecl), mark .closeBrace, mark .semicolon]
  | .typedefDef =>
    chain [maybe (rule .attributes), keyword .typedef, rule .typedefTarget, token .name,
      mark .semicolon]
  | .typedefTarget => oneOf (keyword .externWord) [rule .typeRef]
  | .interfaceMember =>
    oneOf (rule .constructorDecl) [rule .funcDecl, rule .variantDecl]
  | .constructorDecl =>
    chain [maybe (rule .attributes), keyword .constructor, mark .openParen, maybe (rule .params),
      mark .closeParen, mark .semicolon]
  | .funcDecl =>
    chain [maybe (rule .attributes), rule .returnType, token .name, mark .openParen,
      maybe (rule .params), mark .closeParen, mark .semicolon]
  | .variantDecl =>
    chain [token .name, mark .openParen, maybe (rule .params), mark .closeParen, mark .semicolon]
  | .returnType => oneOf (keyword .void) [rule .typeRef]
  | .params => commas (.rule .param)
  | .param => chain [rule .typeRef, token .name]
  | .fieldDecl =>
    chain [maybe (rule .attributes), rule .typeRef, token .name, maybe (rule .fieldDefault),
      mark .semicolon]
  | .fieldDefault => chain [mark .equal, rule .defaultValue]
  | .defaultValue => oneOf (token .text) [token .number, token .name]
  | .attributes => chain [mark .openBracket, commas (.rule .attr), mark .closeBracket]
  | .attr => chain [token .name, maybe (chain [mark .equal, rule .attrValue])]
  | .attrValue => oneOf (token .name) [token .text]
  | .typeRef => oneOf (rule .optionalType) [rule .baseType]
  | .optionalType => chain [rule .baseType, mark .question]
  | .baseType => oneOf (rule .sequenceType) [rule .mapType, rule .namedType]
  | .sequenceType =>
    chain [keyword .sequence, mark .less, rule .typeRef, mark .greater]
  | .mapType =>
    chain [keyword .record, mark .less, rule .typeRef, mark .comma, rule .typeRef, mark .greater]
  | .namedType => token .name

inductive Tree where
  | leaf (l : Lexeme)
  | node (r : Rule) (children : List Tree)

mutual
/-- The tokens of a tree, from left to right. -/
def Tree.leaves : Tree → List Lexeme
  | .leaf l => [l]
  | .node _ children => leavesOf children

def leavesOf : List Tree → List Lexeme
  | [] => []
  | t :: rest => t.leaves ++ leavesOf rest
end

/-- The trees stand one behind the other as a pattern says, and every tree below them as the rule
of its node does. -/
inductive Derives : Pattern → List Tree → Prop
  | token {kind : TokenKind} {text : List Char} : Spelled kind text →
      Derives (.token kind) [.leaf ⟨kind, text⟩]
  | rule {r : Rule} {ts : List Tree} : Derives (production r) ts → Derives (.rule r) [.node r ts]
  | empty : Derives .empty []
  | both {p q : Pattern} {ts us : List Tree} : Derives p ts → Derives q us →
      Derives (.both p q) (ts ++ us)
  | left {p q : Pattern} {ts : List Tree} : Derives p ts → Derives (.either p q) ts
  | right {p q : Pattern} {ts : List Tree} : Derives q ts → Derives (.either p q) ts
  | done {p : Pattern} : Derives (.many p) []
  | more {p : Pattern} {ts us : List Tree} : Derives p ts → Derives (.many p) us →
      Derives (.many p) (ts ++ us)

/-- A derivation tree of a rule. -/
def Tree.From (t : Tree) (r : Rule) : Prop := Derives (.rule r) [t]

/-- What is left of a text behind some white space and comments. A comment in two slashes goes to
the end of its line, and one that opens with a star to the first star that a slash follows. -/
inductive Skips : List Char → List Char → Prop
  | refl {s : List Char} : Skips s s
  | blank {c : Char} {s rest : List Char} : isBlank c = true → Skips s rest → Skips (c :: s) rest
  | line {comment s rest : List Char} : '\n' ∉ comment → (∀ c ∈ s.head?, c = '\n') →
      Skips s rest → Skips ('/' :: '/' :: (comment ++ s)) rest
  | block {comment s rest : List Char} : ¬ ['*', '/'] <:+: comment ++ ['*'] → Skips s rest →
      Skips ('/' :: '*' :: (comment ++ '*' :: '/' :: s)) rest

/-- A text is made of these tokens, with nothing but white space and comments around them. -/
inductive Splits : List Char → List Lexeme → Prop
  | nil {s : List Char} : Skips s [] → Splits s []
  | cons {s rest : List Char} {l : Lexeme} {ls : List Lexeme} : Skips s (l.text ++ rest) →
      Spelled l.kind l.text → Splits rest ls → Splits s (l :: ls)

/-- Tokens written one behind the other with a space between each two. -/
def printed (ls : List Lexeme) : List Char := [' '].intercalate (ls.map Lexeme.text)

end Bindery.Legacy
