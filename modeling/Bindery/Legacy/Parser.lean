import Bindery.Legacy.Lexer
import Bindery.Legacy.Syntax
/-!
# Parsing a legacy interface file

A predictive parser with one token of lookahead. Every token is taken together with the context of
the one behind it, which is all that decides what the next word is.
-/
namespace Bindery.Legacy

/-- Where the text stops being a file. -/
inductive SyntaxFault where
  | unmatched (c : Char) (mark : Mark)
  | unexpected (token : Token)
  deriving DecidableEq, Repr

/-- The next token, which is not taken yet, and the text behind it. -/
structure State where
  look : Token
  behind : Cursor
  deriving DecidableEq, Repr

abbrev Parser (α : Type) := State → Except SyntaxFault (α × State)

namespace Parser

instance : Monad Parser where
  pure a := fun s => .ok (a, s)
  bind p f := fun s =>
    match p s with
    | .error fault => .error fault
    | .ok (a, s) => f a s

/-- The token in front. -/
def look : Parser Token := fun s => .ok (s.look, s)

/-- Refuse the token in front. -/
def refuse : Parser α := fun s => .error (.unexpected s.look)

/-- Read a token. The end of the text has the mark of the token before it. -/
def read (ctx : Context) (c : Cursor) (last : Mark) : Except SyntaxFault State :=
  let c := skipBlanks c.rest.length c
  match c.rest with
  | [] => .ok ⟨⟨.finish, [], last⟩, c⟩
  | first :: _ =>
    match token? ctx c.rest with
    | none => .error (.unmatched first c.mark)
    | some (kind, lexeme, rest) => .ok ⟨⟨kind, lexeme, c.mark⟩, c.pass lexeme rest⟩

/-- Take the token in front; `ctx` is the context of the one behind it. -/
def shift (ctx : Context) : Parser Token := fun s =>
  match read ctx s.behind s.look.mark with
  | .error fault => .error fault
  | .ok next => .ok (s.look, next)

/-- Take a token of a kind, or refuse it. -/
def expect (kind : TokenKind) (ctx : Context) : Parser Token := do
  let token ← look
  if token.kind = kind then shift ctx else refuse

def expectMark (p : Punctuation) (ctx : Context) : Parser Token := expect (.mark p) ctx

def toWord (t : Token) : Word := ⟨String.ofList t.lexeme, t.mark⟩

/-- What stands between the quotes of a literal. -/
def toLiteral (t : Token) : Literal := ⟨(t.lexeme.drop 1).dropLast, t.mark⟩

def name (ctx : Context) : Parser Word := do
  let token ← expect .name ctx
  pure (toWord token)

/-- Read again and again up to a closing token. The fuel is at least the length of the text. -/
def upTo (close : Punctuation) (one : Parser α) : (fuel : Nat) → Parser (List α)
  | 0 => refuse
  | fuel + 1 => do
    let token ← look
    if token.kind = .mark close then pure []
    else
      let first ← one
      let rest ← upTo close one fuel
      pure (first :: rest)

/-- Read again behind every comma. -/
def afterCommas (ctx : Context) (one : Parser α) : (fuel : Nat) → Parser (List α)
  | 0 => pure []
  | fuel + 1 => do
    let token ← look
    if token.kind = .mark .comma then
      let _ ← shift ctx
      let first ← one
      let rest ← afterCommas ctx one fuel
      pure (first :: rest)
    else pure []

/-- A type without the question mark behind it, from a parser of the types inside it. -/
def baseType (inner : Parser TypeExpr) : Parser TypeExpr := do
  let token ← look
  match token.kind with
  | .keyword .sequence => do
    let _ ← shift .none
    let _ ← expectMark .less .types
    let item ← inner
    let _ ← expectMark .greater .word
    pure (.sequence item)
  | .keyword .record => do
    let _ ← shift .none
    let _ ← expectMark .less .types
    let key ← inner
    let _ ← expectMark .comma .types
    let value ← inner
    let _ ← expectMark .greater .word
    pure (.map key value)
  | .name => do
    let token ← shift .word
    pure (.named (toWord token))
  | _ => refuse

/-- The question mark that may stand behind a type. -/
def questionMark (base : TypeExpr) : Parser TypeExpr := do
  let token ← look
  if token.kind = .mark .question then
    let _ ← shift .word
    pure (.optional base)
  else pure base

def typeExpr : (fuel : Nat) → Parser TypeExpr
  | 0 => refuse
  | fuel + 1 => do
    let base ← baseType (typeExpr fuel)
    questionMark base

def param (fuel : Nat) : Parser ParamDecl := do
  let type ← typeExpr fuel
  let name ← name .none
  pure ⟨type, name⟩

/-- The parameters in front of a closing parenthesis. -/
def paramList (fuel : Nat) : Parser (List ParamDecl) := do
  let token ← look
  if token.kind = .mark .closeParen then pure []
  else
    let first ← param fuel
    let rest ← afterCommas .types (param fuel) fuel
    pure (first :: rest)

/-- Parameters in parentheses, and the semicolon behind them. -/
def params (fuel : Nat) (after : Context) : Parser (List ParamDecl) := do
  let _ ← expectMark .openParen .types
  let found ← paramList fuel
  let _ ← expectMark .closeParen .none
  let _ ← expectMark .semicolon after
  pure found

def attributeValue : Parser AttributeValue := do
  let token ← look
  match token.kind with
  | .name => do
    let token ← shift .none
    pure (.word (toWord token))
  | .text => do
    let token ← shift .none
    pure (.text (toLiteral token))
  | _ => refuse

def oneAttribute : Parser Attribute := do
  let name ← name .none
  let token ← look
  if token.kind = .mark .equal then
    let _ ← shift .word
    let value ← attributeValue
    pure ⟨name, some value⟩
  else pure ⟨name, none⟩

/-- Attributes in brackets, or none. -/
def attributes (fuel : Nat) : Parser (List Attribute) := do
  let token ← look
  if token.kind = .mark .openBracket then
    let _ ← shift .word
    let first ← oneAttribute
    let rest ← afterCommas .word oneAttribute fuel
    let _ ← expectMark .closeBracket .attributed
    pure (first :: rest)
  else pure []

/-- A function behind its attributes and its result type. -/
def functionFrom (fuel : Nat) (mark : Mark) (attributes : List Attribute)
    (result : Option TypeExpr) : Parser FunctionDecl := do
  let name ← name .none
  let params ← params fuel .members
  pure ⟨mark, attributes, result, name, params⟩

def functionAfter (fuel : Nat) (mark : Mark) (attributes : List Attribute) :
    Parser FunctionDecl := do
  let token ← look
  if token.kind = .keyword .void then
    let _ ← shift .word
    functionFrom fuel mark attributes none
  else
    let result ← typeExpr fuel
    functionFrom fuel mark attributes (some result)

def function (fuel : Nat) : Parser FunctionDecl := do
  let token ← look
  let attributes ← attributes fuel
  functionAfter fuel token.mark attributes

def constructorAfter (fuel : Nat) (mark : Mark) (attributes : List Attribute) :
    Parser MemberDecl := do
  let _ ← shift .none
  let params ← params fuel .members
  pure (.constructor ⟨mark, attributes, params⟩)

/-- A member that starts with a name: a variant, or a function with a named result. -/
def namedMember (fuel : Nat) (mark : Mark) : Parser MemberDecl := do
  let first ← shift .word
  let token ← look
  match token.kind with
  | .mark .openParen =>
    let params ← params fuel .members
    pure (.variant ⟨toWord first, params⟩)
  | .mark .question =>
    let _ ← shift .word
    let declared ← functionFrom fuel mark [] (some (.optional (.named (toWord first))))
    pure (.function declared)
  | _ =>
    let declared ← functionFrom fuel mark [] (some (.named (toWord first)))
    pure (.function declared)

/-- A member that starts with attributes or with a keyword. -/
def attributedMember (fuel : Nat) (mark : Mark) : Parser MemberDecl := do
  let attributes ← attributes fuel
  let token ← look
  if token.kind = .keyword .constructor then constructorAfter fuel mark attributes
  else
    let declared ← functionAfter fuel mark attributes
    pure (.function declared)

def member (fuel : Nat) : Parser MemberDecl := do
  let token ← look
  match token.kind with
  | .name => namedMember fuel token.mark
  | _ => attributedMember fuel token.mark

def defaultValue : Parser DefaultValue := do
  let token ← look
  match token.kind with
  | .text => do
    let token ← shift .none
    pure (.text (toLiteral token))
  | .number => do
    let token ← shift .none
    pure (.number (String.ofList token.lexeme))
  | .name => do
    let token ← shift .none
    pure (.word (toWord token))
  | _ => refuse

/-- The default of a field, when an equal sign is in front. -/
def fieldDefault : Parser (Option DefaultValue) := do
  let token ← look
  if token.kind = .mark .equal then
    let _ ← shift .word
    let value ← defaultValue
    pure (some value)
  else pure none

def field (fuel : Nat) : Parser FieldDecl := do
  let attributes ← attributes fuel
  let type ← typeExpr fuel
  let name ← name .none
  let default ← fieldDefault
  let _ ← expectMark .semicolon .types
  pure ⟨attributes, type, name, default⟩

/-- The values behind the first one; a comma may stand behind the last. -/
def moreValues : (fuel : Nat) → Parser (List Literal × Bool)
  | 0 => refuse
  | fuel + 1 => do
    let token ← look
    if token.kind = .mark .comma then
      let _ ← shift .none
      let next ← look
      if next.kind = .text then
        let value ← shift .none
        let (rest, trailing) ← moreValues fuel
        pure (toLiteral value :: rest, trailing)
      else pure ([], true)
    else pure ([], false)

def values (fuel : Nat) : Parser (List Literal × Bool) := do
  let token ← look
  if token.kind = .text then
    let value ← shift .none
    let (rest, trailing) ← moreValues fuel
    pure (toLiteral value :: rest, trailing)
  else pure ([], false)

/-- The closing brace and the semicolon of a definition. -/
def close : Parser Unit := do
  let _ ← expectMark .closeBrace .none
  let _ ← expectMark .semicolon .definition
  pure ()

/-- A name and a body in braces. -/
def braced (inside : Context) (body : Parser Body) : Parser (Word × Body) := do
  let name ← name .none
  let _ ← expectMark .openBrace inside
  let body ← body
  close
  pure (name, body)

def typedefTarget (fuel : Nat) : Parser TypedefTarget := do
  let token ← look
  if token.kind = .keyword .externWord then
    let _ ← shift .word
    pure .foreign
  else
    let type ← typeExpr fuel
    pure (.type type)

/-- A definition behind its attributes. -/
def definitionBody (fuel : Nat) : Parser (Word × Body) := do
  let token ← look
  match token.kind with
  | .keyword .namespaceWord =>
    let _ ← shift .word
    braced .functions do
      let found ← upTo .closeBrace (function fuel) fuel
      pure (.space found)
  | .keyword .dictionary =>
    let _ ← shift .word
    braced .types do
      let found ← upTo .closeBrace (field fuel) fuel
      pure (.dictionary found)
  | .keyword .enum =>
    let _ ← shift .word
    braced .none do
      let (found, trailing) ← values fuel
      pure (.enumeration found trailing)
  | .keyword .interface =>
    let _ ← shift .word
    braced .members do
      let found ← upTo .closeBrace (member fuel) fuel
      pure (.interface found)
  | .keyword .callback =>
    let _ ← shift .callback
    let _ ← expect (.keyword .interface) .word
    braced .functions do
      let found ← upTo .closeBrace (function fuel) fuel
      pure (.callback found)
  | .keyword .typedef =>
    let _ ← shift .typedef
    let target ← typedefTarget fuel
    let name ← name .none
    let _ ← expectMark .semicolon .definition
    pure (name, .typedef target)
  | _ => refuse

def definition (fuel : Nat) : Parser Definition := do
  let token ← look
  let attributes ← attributes fuel
  let (name, body) ← definitionBody fuel
  pure ⟨token.mark, attributes, name, body⟩

/-- Definitions up to the end of a text of the given size. -/
def definitions (size : Nat) : (fuel : Nat) → Parser File
  | 0 => refuse
  | fuel + 1 => do
    let token ← look
    if token.kind = .finish then pure []
    else
      let first ← definition size
      let rest ← definitions size fuel
      pure (first :: rest)

end Parser

/-- The definitions of a text. -/
def parseFile (text : List Char) : Except SyntaxFault File :=
  match Parser.read .definition ⟨text, {}⟩ {} with
  | .error fault => .error fault
  | .ok start =>
    let size := text.length + 1
    (Parser.definitions size size start).map Prod.fst

end Bindery.Legacy
