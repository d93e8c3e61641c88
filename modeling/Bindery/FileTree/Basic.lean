import Bindery.FileTree.Path
import Bindery.Table
import Bindery.Text.Quoted
/-!
# File trees

Directories and files, and the operations that a run needs of them. A place is the list of names
from the root of the tree; the root itself is always a directory.
-/
namespace Bindery

/-- Why an operation on a file fails. -/
inductive FileCause where
  | notFound | exists | notDirectory | isDirectory
  /-- A name on the way, or the whole path, has too many bytes. -/
  | nameTooLong
  /-- The path holds a null character. -/
  | embeddedNul
  /-- A fault in the words of whoever noticed it. -/
  | reported (message : String)
  deriving DecidableEq, Repr

structure FileFault where
  cause : FileCause
  path : Path
  deriving DecidableEq, Repr

namespace FileFault

def message (f : FileFault) : String :=
  let about := ": " ++ Text.quoted f.path.render
  match f.cause with
  | .notFound => "[Errno 2] No such file or directory" ++ about
  | .exists => "[Errno 17] File exists" ++ about
  | .notDirectory => "[Errno 20] Not a directory" ++ about
  | .isDirectory => "[Errno 21] Is a directory" ++ about
  | .nameTooLong => "[Errno 36] File name too long" ++ about
  | .embeddedNul => "embedded null byte"
  | .reported message => message

/-- Whether the fault comes from the file system; a path that holds a null character never gets
there. -/
def fromSystem (f : FileFault) : Bool :=
  match f.cause with
  | .embeddedNul => false
  | _ => true

end FileFault

inductive Node where
  | directory
  | file (content : List UInt8)
  deriving DecidableEq, Repr

abbrev Place := List String

structure FileTree where
  /-- The working directory. -/
  here : Place := []
  nodes : Table Place Node := .empty
  deriving DecidableEq

namespace FileTree

def node? (t : FileTree) (place : Place) : Option Node :=
  if place = [] then some .directory else t.nodes.get? place

def put (t : FileTree) (place : Place) (node : Node) : FileTree :=
  { t with nodes := t.nodes.insert place node }

/-- The most bytes that a name may have. -/
def maxNameBytes : Nat := 255

/-- The most bytes that a path may have. -/
def maxPathBytes : Nat := 4095

/-- Go on from a place, which must be a directory, by one part of a path. -/
def step (t : FileTree) (place : Place) (part : String) : Except FileCause Place :=
  match t.node? place with
  | none => .error .notFound
  | some (.file _) => .error .notDirectory
  | some .directory =>
    if part = ".." then .ok place.dropLast
    else if maxNameBytes < part.utf8ByteSize then .error .nameTooLong
    else .ok (place ++ [part])

def hasNul (p : Path) : Bool := p.parts.any fun part => part.toList.contains '\x00'

/-- The place of a path. All places on the way must be directories; nothing need be there. -/
def locate (t : FileTree) (p : Path) : Except FileCause Place :=
  if hasNul p then .error .embeddedNul
  else if maxPathBytes < p.render.utf8ByteSize then .error .nameTooLong
  else p.parts.foldlM t.step (if p.root = "" then t.here else [])

/-- What is at a path. A path that leads nowhere leads to nothing, but one that is too long is a
fault. -/
def look (t : FileTree) (p : Path) : Except FileFault (Option Node) :=
  match t.locate p with
  | .ok place => .ok (t.node? place)
  | .error .nameTooLong => .error ⟨.nameTooLong, p⟩
  | .error _ => .ok none

def pathExists (t : FileTree) (p : Path) : Except FileFault Bool := (t.look p).map Option.isSome

def isFile (t : FileTree) (p : Path) : Except FileFault Bool :=
  (t.look p).map fun
    | some (.file _) => true
    | _ => false

def isDirectory (t : FileTree) (p : Path) : Bool :=
  match t.look p with
  | .ok (some .directory) => true
  | _ => false

def read (t : FileTree) (p : Path) : Except FileFault (List UInt8) :=
  match t.locate p with
  | .error cause => .error ⟨cause, p⟩
  | .ok place =>
    match t.node? place with
    | none => .error ⟨.notFound, p⟩
    | some .directory => .error ⟨.isDirectory, p⟩
    | some (.file content) => .ok content

/-- Write a file in a directory that is there. -/
def write (t : FileTree) (p : Path) (content : List UInt8) : Except FileFault FileTree :=
  match t.locate p with
  | .error cause => .error ⟨cause, p⟩
  | .ok place =>
    match t.node? place with
    | some .directory => .error ⟨.isDirectory, p⟩
    | _ => .ok (t.put place (.file content))

/-- Make one directory in a directory that is there. -/
def makeDirectory (t : FileTree) (p : Path) : Except FileFault FileTree :=
  match t.locate p with
  | .error cause => .error ⟨cause, p⟩
  | .ok place =>
    match t.node? place with
    | some _ => .error ⟨.exists, p⟩
    | none => .ok (t.put place .directory)

/-- Accept a directory that is there already. -/
def ensureDirectory (t : FileTree) (p : Path) : Except FileFault FileTree :=
  match t.makeDirectory p with
  | .ok made => .ok made
  | .error fault =>
    if fault.fromSystem && t.isDirectory p then .ok t else .error fault

/-- Make a directory and those above it that are missing. `fuel` is the number of parts of the
path. What was made before a fault stays. -/
def makeDirectoriesFrom : (fuel : Nat) → FileTree → Path → FileTree × Except FileFault Unit
  | fuel, t, p =>
    match t.ensureDirectory p with
    | .ok made => (made, .ok ())
    | .error fault =>
      match fault.cause, fuel with
      | .notFound, fuel + 1 =>
        match makeDirectoriesFrom fuel t p.parent with
        | (above, .error fault) => (above, .error fault)
        | (above, .ok ()) =>
          match above.ensureDirectory p with
          | .ok made => (made, .ok ())
          | .error fault => (above, .error fault)
      | _, _ => (t, .error fault)

def makeDirectories (t : FileTree) (p : Path) : FileTree × Except FileFault Unit :=
  makeDirectoriesFrom p.parts.length t p

end FileTree
end Bindery
