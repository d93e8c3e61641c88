import Bindery.CommandLine.Words
import Bindery.Generator.Builtin
/-!
# Invocations

What a command line asks for: `generate` or `print-metadata`, and how much to tell on the way.
-/
namespace Bindery.CommandLine

inductive Command where
  | generate (languages : List String) (request : Request) (outDir : Option Path)
  | printMetadata (library : Path)

structure Invocation where
  verbosity : Nat
  asJson : Bool
  command : Command

/-- A command line that is refused, and the command whose arguments are at fault. -/
structure Rejection where
  command : Option String := none
  fault : UsageFault
  deriving DecidableEq, Repr

def Rejection.message (r : Rejection) : String :=
  let program := match r.command with
    | none => "ubind"
    | some name => "ubind " ++ name
  program ++ ": error: " ++ r.fault.message

def generateName : String := "generate"

def printMetadataName : String := "print-metadata"

def commandNames : List String := [generateName, printMetadataName]

def jsonRule : OptionRule := { spellings := ["--json"] }

def generateRules : List OptionRule := [
  helpRule,
  { spellings := ["--language"], valued := true, required := true, choices := Writer.languages },
  { spellings := ["--out-dir"], valued := true, required := true },
  { spellings := ["--crate"], valued := true },
  { spellings := ["--config"], valued := true },
  { spellings := ["--crate-root"], valued := true },
  jsonRule]

def metadataRules : List OptionRule := [helpRule, jsonRule]

/-- Each time that it is given, more events are told. -/
def verboseRule : OptionRule := { spellings := ["-v", "--verbose"] }

def frontRules : List OptionRule := [helpRule, verboseRule]

/-- A source root is given as the name of its library, an equals sign and a path. -/
def rootOf : Option String → Except UsageFault (String × Path)
  | none => .error (.blank .sourceRoot)
  | some value =>
    match Text.cut '=' value.toList with
    | ([], _) | (_, none) | (_, some []) => .error (.badRoot value)
    | (name, some path) => .ok (String.ofList name, Path.parse (String.ofList path))

def languageOf : Option String → Except UsageFault String
  | none => .error (.blank .language)
  | some language => .ok language

def selectionOf : Option (Option String) → Selection
  | none => .all
  | some none => .nameless
  | some (some name) => .one name

def settingsOf : Option (Option String) → Library.SettingsChoice
  | none => .inRoot
  | some none => .nameless
  | some (some path) => .file (Path.parse path)

def generateCommand (r : Reading) (languages : List String) (roots : List (String × Path)) :
    Command :=
  .generate languages {
      library := Path.parse (r.operand.getD "")
      only := selectionOf (r.value? "--crate")
      config := settingsOf (r.value? "--config")
      roots := Table.ofList roots }
    ((r.value? "--out-dir").join.map Path.parse)

/-- What has been read in front of the command, and the command with its arguments. -/
structure Front where
  reading : Reading := {}
  command : Option (String × List String) := none
  deriving DecidableEq, Repr

def Front.verbosity (front : Front) : Nat := (front.reading.valuesOf verboseRule.name).length

/-- Go through the words up to the command. Dashes with a word behind them stand for a command, of
which there is none. -/
def readFront (front : Front) : List String → Except UsageFault Front
  | [] => .ok front
  | word :: rest =>
    if word = "--" ∧ rest ≠ [] then .ok { front with command := some (word, rest) }
    else
      match wordOf frontRules word with
      | .plain word => .ok { front with command := some (word, rest) }
      | word =>
        match front.reading.readAlone frontRules word with
        | .error fault => .error fault
        | .ok reading => readFront { front with reading } rest

def reject (command : Option String) (fault : UsageFault) : Except Rejection α :=
  .error ⟨command, fault⟩

/-- Refuse words that nobody asked for. -/
def refuseLeftOver (front : Front) (r : Reading) : Except Rejection Unit :=
  if front.reading.leftOver ++ r.leftOver = [] then .ok ()
  else reject none (.unrecognized (front.reading.leftOver ++ r.leftOver))

def readGenerate (front : Front) (args : List String) : Except Rejection Invocation := do
  let r ← (readArguments generateRules args).mapError (⟨some generateName, ·⟩)
  refuseLeftOver front r
  let roots ← ((r.valuesOf "--crate-root").mapM rootOf).mapError (⟨none, ·⟩)
  let languages ← ((r.valuesOf "--language").mapM languageOf).mapError (⟨none, ·⟩)
  pure ⟨front.verbosity, r.isSet jsonRule.name, generateCommand r languages roots⟩

def readPrintMetadata (front : Front) (args : List String) : Except Rejection Invocation := do
  let r ← (readArguments metadataRules args).mapError (⟨some printMetadataName, ·⟩)
  refuseLeftOver front r
  pure ⟨front.verbosity, r.isSet jsonRule.name, .printMetadata (Path.parse (r.operand.getD ""))⟩

/-- Read a command line. -/
def parse (args : List String) : Except Rejection Invocation := do
  let front ← (readFront {} args).mapError (⟨none, ·⟩)
  match front.command with
  | none => reject none (.required ["cmd"])
  | some (name, args) =>
    if name = generateName then readGenerate front args
    else if name = printMetadataName then readPrintMetadata front args
    else reject none (.invalidChoice "cmd" name commandNames)

end Bindery.CommandLine
