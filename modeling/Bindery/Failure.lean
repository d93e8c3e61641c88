import Bindery.Config.Document
import Bindery.Diagnostic
import Bindery.FileTree.Text
import Bindery.Group.Basic
import Bindery.Item.Json
import Bindery.Json.Parser
import Bindery.Legacy.Fault
/-!
# Failures

How a run can end without a result. A diagnostic is a report for the user; the other failures are
faults of a stage that nothing turned into a report.
-/
namespace Bindery

/-- What was asked for without saying which. -/
inductive Blank where
  | sourceRoot | language | settingsFile | outDir
  deriving DecidableEq, Repr

def Blank.message : Blank → String
  | sourceRoot => "no source root is given"
  | language => "no language is given"
  | settingsFile => "no settings file is given"
  | outDir => "no output directory is given"

inductive Failure where
  | diagnostic (d : Diagnostic)
  /-- The names of a library in the metadata disagree. -/
  | disagreement (message : String)
  | value (message : String)
  | json (fault : Json.Fault)
  | text (fault : Utf8.Fault)
  | file (fault : FileFault)
  | blank (what : Blank)
  deriving Repr

namespace Failure

def ofResolution (fault : Resolution.Fault) : Failure :=
  match fault.report with
  | .ok d => diagnostic d
  | .error message => disagreement message

def ofGroup (fault : Group.Fault) : Failure :=
  match fault.report with
  | .ok d => diagnostic d
  | .error message => disagreement message

def ofLegacy (library : String) (fault : Legacy.Fault) : Failure :=
  match fault.report library with
  | .ok d => diagnostic d
  | .error message => disagreement message

def ofInterface (fault : Interface.Fault) : Failure :=
  match fault.report with
  | .ok d => diagnostic d
  | .error message => value message

def ofMalformed (fault : Malformed) : Failure := value fault.message

def ofConfig (fault : Config.Fault) : Failure := value fault.message

def ofText : TextFault → Failure
  | .file fault => file fault
  | .encoding fault => text fault

/-- A report says which library it is about. -/
def ofLibrary (library : String) : Failure → Failure
  | diagnostic d => diagnostic { d with library := library }
  | failure => failure

def message : Failure → String
  | diagnostic d => d.render
  | disagreement message => message
  | value message => message
  | json fault => fault.message
  | text fault => fault.message
  | file fault => fault.message
  | blank what => what.message

end Failure
end Bindery
