import Bindery.Failure
/-!
# The settings of a library

Settings come from a file that the caller names, else from the settings file in the source root of
the library, else they are empty.
-/
namespace Bindery.Library

def settingsName : String := "ubind.json"

/-- The settings file that the caller wants. -/
inductive SettingsChoice where
  /-- The one in the source root of the library, if it is there. -/
  | inRoot
  /-- This one, which must be there. -/
  | file (path : Path)
  /-- One that is not named, so that it cannot be looked for. -/
  | nameless
  deriving DecidableEq, Repr

def SettingsChoice.ofPath? : Option Path → SettingsChoice
  | none => inRoot
  | some path => file path

/-- The report that the file which the caller names is not there. -/
def noSettings (file : Path) : Diagnostic where
  reason := .config
  message := "config file not found"
  artifact := file.render

/-- The file to read, if any. -/
def settingsFile? (t : FileTree) (choice : SettingsChoice) (root : Option Path) :
    Except Failure (Option Path) :=
  match choice, root with
  | .nameless, _ => throw (.blank .settingsFile)
  | .file file, _ => do
    let isThere ← (t.isFile file).mapError .file
    if isThere then pure (some file) else throw (.diagnostic (noSettings file))
  | .inRoot, some root => do
    let file := root.append settingsName
    let isThere ← (t.isFile file).mapError .file
    pure (if isThere then some file else none)
  | .inRoot, none => .ok none

def readSettings (t : FileTree) (languages : List String) (file : Path) :
    Except Failure Config := do
  let text ← (t.readText file).mapError .ofText
  let json ← (Json.parseChars text).mapError .json
  (Config.ofJson languages json).mapError .ofConfig

/-- The failure of a run whose settings cannot be read. Half of a surrogate pair is no fault of the
settings, only beyond what texts hold, so no report blames the file for it. -/
def explainSettings (file : Path) (failure : Failure) : Failure :=
  let report := Failure.diagnostic {
    reason := .config
    message := "invalid config: " ++ failure.message
    artifact := file.render }
  match failure with
  | .json fault => if fault.lack = .halfPair then failure else report
  | _ => report

/-- The settings of a library with a section for each language. -/
def settings (t : FileTree) (languages : List String) (choice : SettingsChoice)
    (root : Option Path) : Except Failure Config :=
  match settingsFile? t choice root with
  | .error failure => .error failure
  | .ok none => .ok (Config.default languages)
  | .ok (some file) => (readSettings t languages file).mapError (explainSettings file)

end Bindery.Library
