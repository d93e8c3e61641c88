import Bindery.Description
import Bindery.Stub.Module
/-!
# Writers

The built-in target languages. A writer turns one interface with its settings into the name and the
text of one file.
-/
namespace Bindery

inductive Writer where
  | json | python
  deriving DecidableEq, Repr

namespace Writer

def language : Writer → String
  | json => "json"
  | python => "python"

def extension : Writer → String
  | json => "json"
  | python => "py"

def all : List Writer := [json, python]

/-- The languages that have a writer, in order. -/
def languages : List String := Order.sortTexts (all.map language)

def unsupported (language : String) : Diagnostic where
  reason := .config
  message := "unsupported target language (available: " ++ Text.join ", " languages ++ ")"
  language := language

def forLanguage (language : String) : Except Diagnostic Writer :=
  match all.find? (·.language = language) with
  | some writer => .ok writer
  | none => .error (unsupported language)

/-- The file that is written: named for the module, or for the namespace when no module name is
set. -/
def outputFilename (w : Writer) (s : Section) (i : Interface) : Except Interface.Fault String := do
  let stem ← if s.moduleName.getD "" = "" then i.namespaceName else pure (s.moduleName.getD "")
  pure (stem ++ "." ++ w.extension)

def render (w : Writer) (s : Section) (i : Interface) : Except Interface.Fault String :=
  match w with
  | json => Description.render s i
  | python => Stub.render s i

end Writer
end Bindery
