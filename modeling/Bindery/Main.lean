import Bindery.CommandLine.Files
/-!
# The program

Copies the files that an invocation looks at into a tree, runs the invocation on the tree, and
writes to the disk what the run has changed.
-/
namespace Bindery.CommandLine

def diskName (place : Place) : String := "/" ++ Text.join "/" place

/-- Copy what lies at a place of the disk. -/
def observePlace (t : FileTree) (place : Place) : IO FileTree := do
  let file := (← IO.currentDir) / diskName place
  if ← file.isDir then return t.put place .directory
  if ← file.pathExists then
    let content ← IO.FS.readBinFile file
    return t.put place (.file content.toList)
  return t

/-- Copy the places that a path leads through. -/
def observe (t : FileTree) (p : Path) : IO FileTree := do
  let mut seen := t
  let mut place := if p.root = "" then t.here else []
  for part in p.parts do
    place := if part = ".." then place.dropLast else place ++ [part]
    seen ← observePlace seen place
  return seen

def observeAll (t : FileTree) (paths : List Path) : IO FileTree := paths.foldlM observe t

/-- The tree that holds the working directory and nothing else. -/
def emptyTree : IO FileTree := do
  let here := (Path.parse (← IO.currentDir).toString).parts
  observe { here } ⟨"/", here⟩

def storePlace (place : Place) : Node → IO Unit
  | .directory => IO.FS.createDirAll (diskName place)
  | .file content => IO.FS.writeBinFile (diskName place) (ByteArray.mk content.toArray)

def storeChanges (before after : FileTree) : IO Unit :=
  after.nodes.entries.forM fun entry => do
    if before.nodes.get? entry.1 ≠ some entry.2 then storePlace entry.1 entry.2

def print (o : Output) : IO UInt32 := do
  IO.print o.stdout
  IO.eprint o.stderr
  return UInt32.ofNat o.exit

/-- Print the output. A failure that is no report is told on the error output. -/
def finish : Except Failure Output → IO UInt32
  | .ok output => print output
  | .error failure => do
    IO.eprintln failure.message
    return 1

def runOnDisk (v : Invocation) : IO UInt32 := do
  let read ← observeAll (← emptyTree) (firstPaths v.command)
  let read ← observeAll read (legacyPaths read v.command)
  let before ← observeAll read (outputPaths read v.command)
  let (after, outcome) := run v before
  storeChanges before after
  finish outcome

end Bindery.CommandLine

def main (args : List String) : IO UInt32 :=
  match Bindery.CommandLine.parse args with
  | .ok invocation => Bindery.CommandLine.runOnDisk invocation
  | .error rejection => Bindery.CommandLine.finish rejection.output
