import Bindery.FileTree.Basic
import Bindery.Text.Lines
import Bindery.Text.Utf8
/-!
# Text files

Text in files is UTF-8. Reading takes every line end for a line feed; writing leaves the text as it
is. An update writes only what differs from the text that is there.
-/
namespace Bindery

/-- Why the text of a file cannot be read or written. -/
inductive TextFault where
  | file (fault : FileFault)
  | encoding (fault : Utf8.Fault)
  deriving DecidableEq, Repr

namespace FileTree

def readText (t : FileTree) (p : Path) : Except TextFault (List Char) :=
  match t.read p with
  | .error fault => .error (.file fault)
  | .ok bytes =>
    match Utf8.decodeChars bytes with
    | .error fault => .error (.encoding fault)
    | .ok text => .ok (Text.unifyLineEnds text)

/-- The text of a file, or nothing where there is no file. -/
def readText? (t : FileTree) (p : Path) : Except TextFault (Option (List Char)) :=
  match t.pathExists p with
  | .error fault => .error (.file fault)
  | .ok false => .ok none
  | .ok true => (t.readText p).map some

/-- Write bytes to a file and make the directories above it. What was made before a fault stays. -/
def store (t : FileTree) (p : Path) (content : List UInt8) : FileTree × Except FileFault Unit :=
  match t.makeDirectories p.parent with
  | (made, .error fault) => (made, .error fault)
  | (made, .ok ()) =>
    match made.write p content with
    | .error fault => (made, .error fault)
    | .ok written => (written, .ok ())

/-- Write a text unless the file reads as that text already; the answer tells whether it was
written. -/
def update (t : FileTree) (p : Path) (text : List Char) : FileTree × Except TextFault Bool :=
  match t.readText? p with
  | .error fault => (t, .error fault)
  | .ok known =>
    if known = some text then (t, .ok false)
    else match t.store p (Utf8.encodeChars text) with
      | (stored, .ok ()) => (stored, .ok true)
      | (stored, .error fault) => (stored, .error (.file fault))

end FileTree
end Bindery
