import Bindery.Diagnostic
import Bindery.Group.Basic
import Bindery.Legacy.Escape
import Bindery.Legacy.Parser
import Bindery.Text.Lines
import Bindery.Text.Utf8
/-!
# Faults of legacy interface files

What can be wrong with a legacy file, and how it is reported.
-/
namespace Bindery

/-- What is wrong with the bytes of a text. -/
def Utf8.Fault.message (f : Utf8.Fault) : String :=
  let reason := match f.reason with
    | .invalidStart => "invalid start byte"
    | .invalidContinuation => "invalid continuation byte"
    | .unexpectedEnd => "unexpected end of data"
  let place :=
    if f.length = 1 then
      "byte 0x" ++ String.ofList (Text.hex 2 f.first.toNat) ++ " in position " ++
        toString f.position
    else
      "bytes in position " ++ toString f.position ++ "-" ++ toString (f.position + f.length - 1)
  "'utf-8' codec can't decode " ++ place ++ ": " ++ reason

namespace Legacy

/-- A code point that is not ASCII as an escape. -/
def pointEscape (n : Nat) : String :=
  String.ofList (if n < 0x10000 then '\\' :: 'u' :: Text.hex 4 n else '\\' :: 'U' :: Text.hex 8 n)

def Escape.Fault.message : Escape.Fault → String
  | .escape reason position length =>
    let place :=
      if length = 1 then "byte 0x5c in position " ++ toString position
      else "bytes in position " ++ toString position ++ "-" ++ toString (position + length - 1)
    "'unicodeescape' codec can't decode " ++ place ++ ": " ++ reason.message
  | .wide first position length =>
    let place :=
      if length = 1 then "character '" ++ pointEscape first ++ "' in position " ++ toString position
      else
        "characters in position " ++ toString position ++ "-" ++ toString (position + length - 1)
    "'latin-1' codec can't encode " ++ place ++ ": ordinal not in range(256)"
  | .utf8 fault => fault.message

def SyntaxFault.mark : SyntaxFault → Mark
  | unmatched _ mark => mark
  | unexpected token => token.mark

def SyntaxFault.message : SyntaxFault → String
  | unmatched c mark =>
    "No terminal matches '" ++ String.ofList [c] ++ "' in the current parser context, at line " ++
      toString mark.line ++ " col " ++ toString mark.column
  | unexpected token =>
    "Unexpected token Token(" ++ Text.quoted token.kind.terminal ++ ", " ++
      String.ofList (Text.quotedChars token.lexeme) ++ ") at line " ++ toString token.mark.line ++
      ", column " ++ toString token.mark.column ++ "."

inductive Fault where
  | notSyntax (fault : SyntaxFault)
  | badEscape (fault : Escape.Fault) (mark : Mark)
  | secondNamespace (mark : Mark)
  | noNamespace
  | duplicateName (name : String) (mark : Mark)
  | notForeign (name : String) (mark : Mark)
  | noLibrary (name : String) (mark : Mark)
  | bareTypedef (name : String) (mark : Mark)
  | noBuiltin (name : String) (mark : Mark)
  | unknownType (name : String) (mark : Mark)
  | noErrorType (mark : Mark)
  | unknownErrorType (name : String) (mark : Mark)
  | strayVariants (name : String) (mark : Mark)
  | item (fault : Group.Fault)
  deriving DecidableEq, Repr

namespace Fault

def mark? : Fault → Option Mark
  | notSyntax fault => some fault.mark
  | badEscape _ mark | secondNamespace mark | duplicateName _ mark | notForeign _ mark
  | noLibrary _ mark | bareTypedef _ mark | noBuiltin _ mark | unknownType _ mark
  | noErrorType mark | unknownErrorType _ mark | strayVariants _ mark => some mark
  | noNamespace | item _ => none

/-- The first line of a text. -/
def firstLine (s : String) : String := String.ofList ((Text.splitLines s.toList).headD [])

def message : Fault → String
  | notSyntax fault => "syntax error: " ++ firstLine fault.message
  | badEscape fault _ => "invalid string escape: " ++ fault.message
  | secondNamespace _ => "more than one namespace declared"
  | noNamespace => "missing namespace declaration"
  | duplicateName name _ => "duplicate definition of '" ++ name ++ "'"
  | notForeign name _ => "external typedef '" ++ name ++ "' must use 'extern'"
  | noLibrary name _ => "external typedef '" ++ name ++ "' must name its library"
  | bareTypedef name _ =>
    "typedef '" ++ name ++ "' needs [Custom], [External] or [ExternalInterface]"
  | noBuiltin name _ => "custom typedef '" ++ name ++ "' must name a builtin type"
  | unknownType name _ => "unknown type '" ++ name ++ "'"
  | noErrorType _ => "[Throws] needs an error type"
  | unknownErrorType name _ => "unknown error type '" ++ name ++ "'"
  | strayVariants name _ => "interface '" ++ name ++ "' declares variants but is not an [Enum]"
  | item fault =>
    match fault.report with
    | .ok d => d.message
    | .error message => message

/-- The report about the file of a library. -/
def report (library : String) (fault : Fault) : Except String Diagnostic :=
  match fault with
  | item fault => fault.report
  | fault => .ok {
      reason := .legacySyntax
      message := fault.message
      library := library
      line := fault.mark?.map fun mark => mark.line
      column := fault.mark?.map fun mark => mark.column }

end Fault
end Legacy
end Bindery
