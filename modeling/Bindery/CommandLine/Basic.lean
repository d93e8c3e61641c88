import Bindery.CommandLine.Invocation
import Bindery.Json.Printer
/-!
# The command line

Running an invocation over a file tree: what it prints, and the tree that it leaves. Reports are
JSON on the standard output or one line on the error output. A failure that is no report ends the
program without an answer.
-/
namespace Bindery.CommandLine

structure Output where
  exit : Nat
  stdout : String := ""
  stderr : String := ""
  deriving DecidableEq, Repr

def diagnosticJson (d : Diagnostic) : Json :=
  .obj ([
    ("reason_code", .str d.reason.code),
    ("message", .str d.message),
    ("library_id", if d.nameless then .arr [] else Json.ofText? d.library),
    ("type_name", Json.ofText? d.typeName),
    ("artifact_path", Json.ofText? d.artifact),
    ("language", Json.ofText? d.language)] ++
    if d.hasPlace then
      [("line", Json.ofOption .int d.line), ("column", Json.ofOption .int d.column)]
    else [])

def reportJson (exit : Nat) (diagnostics sources : List Json) : Json :=
  .obj [("exit_code", .int exit), ("diagnostics", .arr diagnostics), ("sources", .arr sources)]

def sourceJson (s : Source) : Except Interface.Fault Json := do
  let space ← s.interface.namespaceName
  pure (.obj [("crate_name", .str s.library), ("namespace", .str space),
    ("config", s.config.toJson)])

def sourceLine (s : Source) : Except Interface.Fault String := do
  let space ← s.interface.namespaceName
  pure (s.library ++ " -> " ++ space ++ "\n")

/-- What `generate` prints about the sources that it has written. -/
def sourcesText (asJson : Bool) (found : List Source) : Except Interface.Fault String :=
  if asJson then (found.mapM sourceJson).map fun sources =>
    (reportJson 0 [] sources).ascii ++ "\n"
  else (found.mapM sourceLine).map (Text.join "")

def groupsJson (groups : GroupMap) : Json :=
  .obj (groups.sorted.map fun entry =>
    (entry.1, .obj [("namespace", .str entry.2.space.name),
      ("items", Item.listToJson entry.2.sortedItems)]))

/-- What `print-metadata` prints. -/
def groupsText (asJson : Bool) (groups : GroupMap) : String :=
  (if asJson then (groupsJson groups).ascii else (groupsJson groups).indented) ++ "\n"

/-- Whether an event is told at a verbosity. -/
def isTold (verbosity : Nat) (event : Event) : Bool :=
  match event.level with
  | .info => decide (1 ≤ verbosity)
  | .debug => decide (2 ≤ verbosity)

def logText (verbosity : Nat) (events : List Event) : String :=
  Text.join "" ((events.filter (isTold verbosity)).map fun event => event.line ++ "\n")

/-- The output after a run that prints a text or ends with a report. -/
def outputOf (v : Invocation) (r : Traced String) : Except Failure Output :=
  let log := logText v.verbosity r.events
  match r.outcome with
  | .ok text => .ok ⟨0, text, log⟩
  | .error (.diagnostic d) =>
    if v.asJson then .ok ⟨2, (reportJson 2 [diagnosticJson d] []).ascii ++ "\n", log⟩
    else .ok ⟨2, "", log ++ d.render ++ "\n"⟩
  | .error failure => .error failure

/-- Generate as far as that can be done without a directory to write to. -/
def generateNowhere (languages : List String) (request : Request) : Run Unit String := do
  let g ← Run.ofExcept (Generator.forLanguages languages)
  let _ ← g.prepare request
  .ofExcept (.error (.blank .outDir))

def perform (asJson : Bool) : Command → Run Unit String
  | .generate languages request none => generateNowhere languages request
  | .generate languages request (some outDir) => do
    let found ← generate languages request outDir
    .ofExcept ((sourcesText asJson found).mapError .ofInterface)
  | .printMetadata library => .ask fun t => do
    let items ← Library.extract t library
    let groups ← Library.group items
    pure (groupsText asJson groups)

/-- Run an invocation: the tree that it leaves, and its output. -/
def run (v : Invocation) (t : FileTree) : FileTree × Except Failure Output :=
  let (world, result) := perform v.asJson v.command ⟨t, ()⟩
  (world.tree, outputOf v result)

/-- The answer to a question for help. -/
def usageText : String :=
  "usage: ubind [-v] generate --language LANGUAGE --out-dir DIRECTORY [--crate NAME]\n" ++
  "         [--config FILE] [--crate-root NAME=PATH] [--json] LIBRARY\n" ++
  "       ubind [-v] print-metadata [--json] LIBRARY\n"

/-- The output of a command line that is refused, unless that is a failure. -/
def Rejection.output (r : Rejection) : Except Failure Output :=
  match r.fault with
  | .help => .ok ⟨0, usageText, ""⟩
  | .blank what => .error (.blank what)
  | _ => .ok ⟨2, "", r.message ++ "\n"⟩

end Bindery.CommandLine
