/-!
# Runs of names

The names of consecutive code points, written so that each says only how it differs from the one
before. A name is made of upper case letters, digits, blanks and hyphens; a part of it ends behind a
blank or a hyphen. A small letter divides two names: it tells how many parts the next one begins
with that its neighbour begins with too, none with `a`, one with `b` and so on, and the rest of the
name follows.
-/
namespace Bindery.Text.CharName

structure Run where
  /-- The code point of the first name. -/
  first : Nat
  coded : String
  deriving DecidableEq, Repr

/-- The first parts of a name. -/
def leading : Nat → List Char → List Char
  | 0, _ => []
  | _ + 1, [] => []
  | n + 1, c :: rest => c :: leading (if c = ' ' ∨ c = '-' then n else n + 1) rest

/-- The text in front of the first small letter, and each small letter with the text behind it. -/
def divide (coded : List Char) : List Char × List (Char × List Char) :=
  coded.foldr
    (fun c found =>
      if c.isLower then ([], (c, found.1) :: found.2) else (c :: found.1, found.2))
    ([], [])

/-- The names behind a name. -/
def namesAfter (last : List Char) : List (Char × List Char) → List (List Char)
  | [] => []
  | (shared, text) :: rest =>
    let name := leading (shared.toNat - 97) last ++ text
    name :: namesAfter name rest

def Run.names (run : Run) : List (List Char) :=
  let (name, rest) := divide run.coded.toList
  name :: namesAfter name rest

/-- The code point that has a name in the run. -/
def Run.point? (run : Run) (name : List Char) : Option Nat :=
  (run.names.findIdx? (· = name)).map (run.first + ·)

end Bindery.Text.CharName
