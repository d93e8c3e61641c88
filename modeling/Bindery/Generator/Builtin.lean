import Bindery.Generator.Basic
import Bindery.Writer
/-!
# The built-in generator

It writes one file for each language and source, and leaves a file alone that reads as it should
already.
-/
namespace Bindery

/-- What a fault means while a writer stores a file. -/
def Writer.explain (w : Writer) (library : String) (file : Path) (fault : TextFault) : Failure :=
  match fault with
  | .encoding _ => .ofText fault
  | .file cause =>
    if cause.fromSystem then .diagnostic {
      reason := .write
      message := "cannot write bindings: " ++ cause.message
      library := library
      artifact := file.render
      language := w.language }
    else .ofText fault

/-- Write the bindings of a source below a directory. -/
def Writer.write (w : Writer) (s : Source) (outDir : Path) : Run σ Unit := do
  let settings := s.config.sectionFor w.language
  let filename ← .ofExcept ((w.outputFilename settings s.interface).mapError .ofInterface)
  let text ← .ofExcept ((w.render settings s.interface).mapError .ofInterface)
  let file := outDir.append filename
  let changed ← Run.change (w.explain s.library file) (·.update file text.toList)
  .note (.stored changed w.language s.library file)

namespace Generator

def writeWith (s : Source) (outDir : Path) : List Writer → Run σ Unit
  | [] => pure ()
  | w :: rest => do
    w.write s outDir
    writeWith s outDir rest

/-- Python bindings load the shared library by its name, so it must have one. -/
def checkLibrary (languages : List String) (library : Path) (cdylib : Option String) :
    Except Failure Unit :=
  if "python" ∈ languages ∧ cdylib = none then
    .error (.diagnostic {
      reason := .config
      message := "generating python bindings requires a shared library (.so/.dll/.dylib)"
      artifact := library.render
      language := "python" })
  else .ok ()

def outputOf (s : Source) (w : Writer) : Except Failure (String × String) :=
  ((w.outputFilename (s.config.sectionFor w.language) s.interface).mapError .ofInterface).map
    fun filename => (w.language, filename)

def ofWriters (writers : List Writer) : Generator σ where
  languages := writers.map Writer.language
  check library cdylib := .ofExcept (checkLibrary (writers.map Writer.language) library cdylib)
  filenames s := writers.mapM (outputOf s)
  write s outDir := writeWith s outDir writers

def noLanguage : Diagnostic where
  reason := .config
  message := "no target language given"

/-- A generator for one language at least. -/
def forLanguages (languages : List String) : Except Failure (Generator σ) :=
  if languages = [] then .error (.diagnostic noLanguage)
  else
    match (Order.distinct languages).mapM Writer.forLanguage with
    | .error report => .error (.diagnostic report)
    | .ok writers => .ok (ofWriters writers)

end Generator

/-- Generate the bindings of some languages below a directory. -/
def generate (languages : List String) (r : Request) (outDir : Path) : Run Unit (List Source) := do
  let g ← Run.ofExcept (Generator.forLanguages languages)
  g.run r outDir

end Bindery
