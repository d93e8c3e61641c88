import Bindery.Generator.Run
import Bindery.Library.Name
import Bindery.Library.Source
/-!
# Generators

A generator turns sources into files. A run finds every source before it writes anything: the
library is checked, the sources are found, those of one library are selected if the caller asks for
it, and no two libraries may write the same file. Only then are files written.
-/
namespace Bindery

structure Generator (σ : Type) where
  /-- The languages that every source needs settings for. -/
  languages : List String := []
  /-- Accept or refuse a library file, given the name under which it is loaded. -/
  check : Path → Option String → Run σ Unit := fun _ _ => pure ()
  /-- The files that a source is written to, each with its language. -/
  filenames : Source → Except Failure (List (String × String)) := fun _ => .ok []
  /-- Write a source below a directory. -/
  write : Source → Path → Run σ Unit

/-- Which libraries of an artifact are asked for. -/
inductive Selection where
  | all
  | one (name : String)
  /-- One that is not named, and so is none of them. -/
  | nameless
  deriving DecidableEq, Repr

namespace Selection

def ofName? : Option String → Selection
  | none => all
  | some name => one name

def takes : Selection → String → Bool
  | all, _ => true
  | one name, library => library = name
  | nameless, _ => false

/-- The report that the library is not there. -/
def notFound (artifact : Path) (s : Selection) : Diagnostic :=
  let report (shown : String) : Diagnostic := {
    reason := .config
    message := "library '" ++ shown ++ "' not found in artifact"
    artifact := artifact.render }
  match s with
  | one name => { report name with library := name }
  | all | nameless => { report "[]" with nameless := true }

end Selection

/-- What is to be generated. -/
structure Request where
  library : Path
  only : Selection := .all
  config : Library.SettingsChoice := .inRoot
  roots : Table String Path := .empty

namespace Request

/-- The sources that are asked for; if not all are, there must be one. -/
def select (r : Request) (found : List Source) : Except Failure (List Source) :=
  let chosen := found.filter fun s => r.only.takes s.library
  if r.only ≠ .all ∧ chosen = [] then .error (.diagnostic (r.only.notFound r.library))
  else .ok chosen

end Request

/-- The library that writes each file. -/
abbrev Owners := Table String String

namespace Owners

def clash (first second filename language : String) : Diagnostic where
  reason := .config
  message := "libraries '" ++ first ++ "' and '" ++ second ++ "' both write '" ++ filename ++ "'"
  library := second
  language := language

/-- Claim a file of a language for a library; it must not be another one's. -/
def claim (library : String) (owners : Owners) (output : String × String) :
    Except Failure Owners :=
  let (language, filename) := output
  match owners.get? filename with
  | none => .ok (owners.insert filename library)
  | some other =>
    if other = library then .ok owners
    else .error (.diagnostic (clash other library filename language))

/-- Claim the files of a source. -/
def claimAll (g : Generator σ) (owners : Owners) (s : Source) : Except Failure Owners := do
  let outputs ← g.filenames s
  outputs.foldlM (claim s.library) owners

end Owners

namespace Generator

/-- What a fault of the files means while the bindings of a library are written. -/
def explainWrite (outDir : Path) (s : Source) : Failure → Failure
  | .file fault =>
    if fault.fromSystem then .diagnostic {
      reason := .write
      message := "cannot write bindings: " ++ fault.message
      library := s.library
      artifact := outDir.render }
    else .file fault
  | failure => failure

/-- What a fault means while the output directory is made. -/
def explainOutDir (outDir : Path) (fault : FileFault) : Failure :=
  if fault.fromSystem then .diagnostic {
    reason := .write
    message := "cannot create output directory: " ++ fault.message
    artifact := outDir.render }
  else .file fault

/-- The sources to write. -/
def prepare (g : Generator σ) (r : Request) : Run σ (List Source) := do
  let cdylib := Library.cdylibName r.library
  g.check r.library cdylib
  let found ← .ask fun t => Library.sources t ⟨cdylib, r.config, r.roots, g.languages⟩ r.library
  let chosen ← .ofExcept (r.select found)
  let _ ← .ofExcept (chosen.foldlM (Owners.claimAll g) Table.empty)
  pure chosen

def writeSources (g : Generator σ) (outDir : Path) : List Source → Run σ Unit
  | [] => pure ()
  | s :: rest => do
    Run.mapFailure (explainWrite outDir s) (g.write s outDir)
    writeSources g outDir rest

/-- Generate what is asked for below a directory; the answer is what was written. -/
def run (g : Generator σ) (r : Request) (outDir : Path) : Run σ (List Source) := do
  let chosen ← g.prepare r
  Run.change (explainOutDir outDir) (·.makeDirectories outDir)
  g.writeSources outDir chosen
  pure chosen

end Generator
end Bindery
