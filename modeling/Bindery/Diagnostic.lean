import Bindery.Text.Pieces
/-!
# Diagnostics

A structured report of a failure: a stable reason, a message, and the library, type, artifact,
language and place it concerns as far as they are known.
-/
namespace Bindery

inductive Reason where
  | general | extraction | unknownNamespace | duplicateItem | unsupportedExternal
  | ambiguousLegacy | invalidLegacy | legacySyntax | interface | config | write
  deriving DecidableEq, Repr

def Reason.code : Reason → String
  | general => "BINDGEN_ERROR"
  | extraction => "EXTRACTION_FAILED"
  | unknownNamespace => "NAMESPACE_UNKNOWN"
  | duplicateItem => "DUPLICATE_ITEM"
  | unsupportedExternal => "UNSUPPORTED_EXTERNAL_TYPE"
  | ambiguousLegacy => "LEGACY_SOURCE_AMBIGUOUS"
  | invalidLegacy => "LEGACY_SOURCE_INVALID"
  | legacySyntax => "LEGACY_PARSE_ERROR"
  | interface => "INTERFACE_CONFLICT"
  | config => "CONFIG_ERROR"
  | write => "WRITE_FAILED"

structure Diagnostic where
  reason : Reason
  message : String
  library : Option String := none
  /-- Whether it is about a library that was asked for without a name. -/
  nameless : Bool := false
  typeName : Option String := none
  artifact : Option String := none
  language : Option String := none
  line : Option Int := none
  column : Option Int := none
  deriving DecidableEq, Repr

namespace Diagnostic

/-- A labelled part of the one-line form; nothing for a value that is missing or empty. -/
def part (label : String) : Option String → String
  | none => ""
  | some value => if value = "" then "" else " " ++ label ++ "=" ++ value

/-- Whether reports of this reason point into a text. -/
def hasPlace (d : Diagnostic) : Bool := d.reason = .legacySyntax

/-- The place in the text, when a line is known. -/
def place (d : Diagnostic) : String :=
  match d.hasPlace, d.line with
  | true, some line =>
    let column := match d.column with
      | some column => String.ofList (Text.ofInt column)
      | none => "None"
    " at=" ++ String.ofList (Text.ofInt line) ++ ":" ++ column
  | _, _ => ""

/-- The report on one line. -/
def render (d : Diagnostic) : String :=
  "[" ++ d.reason.code ++ "] " ++ d.message ++ part "library" d.library ++
    part "type" d.typeName ++ part "language" d.language ++ part "artifact_path" d.artifact ++
    d.place

end Diagnostic
end Bindery
