import Bindery.Text.Pieces
/-!
# Paths

A path as its root and its parts. Empty parts and single dots are dropped when a path is read;
double dots are kept, because what they lead to depends on the tree.
-/
namespace Bindery

/-- `root` is empty for a relative path, one slash, or exactly two. -/
structure Path where
  root : String := ""
  parts : List String := []
  deriving DecidableEq, Repr, Inhabited

namespace Path

def pathParts (s : List Char) : List String :=
  ((Text.splitAt '/' s).map String.ofList).filter fun part => part ≠ "" ∧ part ≠ "."

def parse (s : String) : Path :=
  let chars := s.toList
  let slashes := chars.takeWhile (· = '/')
  let root := if slashes.length = 0 then "" else if slashes.length = 2 then "//" else "/"
  ⟨root, pathParts (chars.dropWhile (· = '/'))⟩

def render (p : Path) : String :=
  if p.root = "" ∧ p.parts = [] then "." else p.root ++ Text.join "/" p.parts

/-- A path below another; an absolute path stands for itself. -/
def join (p q : Path) : Path := if q.root ≠ "" then q else ⟨p.root, p.parts ++ q.parts⟩

def append (p : Path) (s : String) : Path := p.join (parse s)

/-- The last part, or nothing for a root. -/
def name (p : Path) : String := p.parts.getLastD ""

def parent (p : Path) : Path := ⟨p.root, p.parts.dropLast⟩

end Path
end Bindery
