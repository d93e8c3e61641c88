import Bindery.Legacy.Items
import Bindery.Traced
/-!
# The legacy file of a library

A library that declares a legacy interface file has it below its source root. What the file
describes is resolved against the groups of the artifact like the items of the artifact itself.
-/
namespace Bindery.Library

/-- Why the legacy file of a library is not found. -/
inductive LegacyFault where
  | ambiguous (count : Nat) (root : Option Path)
  | foreign (declared : String)
  | noRoot (stub : String)
  | missing (file : Path)
  | unreadable (file : Path) (fault : FileFault)
  deriving DecidableEq, Repr

def LegacyFault.report (library : String) : LegacyFault → Diagnostic
  | ambiguous count root => {
      reason := .ambiguousLegacy
      message := toString count ++ " legacy interface files declared"
      library := library
      artifact := root.map Path.render }
  | foreign declared => {
      reason := .invalidLegacy
      message := "legacy interface file is for library '" ++ declared ++
        "' but this library is '" ++ library ++ "'"
      library := library }
  | noRoot stub => {
      reason := .invalidLegacy
      message := "no crate root known for legacy interface file '" ++ stub ++ ".udl'"
      library := library }
  | missing file => {
      reason := .invalidLegacy
      message := file.render ++ " not found"
      library := library
      artifact := file.render }
  | unreadable file fault => {
      reason := .invalidLegacy
      message := "cannot read " ++ file.render ++ ": " ++ fault.message
      library := library
      artifact := file.render }

/-- Where a legacy file lies below a source root. -/
def legacyPath (root : Path) (stub : String) : Path := (root.append "src").append (stub ++ ".udl")

/-- Where the one legacy file that a group declares should be, if it declares any. -/
def declaredLegacy? (library : String) (root : Option Path) (group : Group) :
    Except LegacyFault (Option Path) :=
  match group.legacyMarkers with
  | [] => .ok none
  | [marker] =>
    if marker.modulePath ≠ library then .error (.foreign marker.modulePath)
    else match root with
      | none => .error (.noRoot marker.fileStub)
      | some root => .ok (some (legacyPath root marker.fileStub))
  | markers => .error (.ambiguous markers.length root)

/-- The legacy file that a group declares, which must be there. -/
def legacyFile? (t : FileTree) (library : String) (root : Option Path) (group : Group) :
    Except Failure (Option Path) :=
  match declaredLegacy? library root group with
  | .error fault => .error (.diagnostic (fault.report library))
  | .ok none => .ok none
  | .ok (some file) =>
    match t.isFile file with
    | .error fault => .error (.file fault)
    | .ok true => .ok (some file)
    | .ok false => .error (.diagnostic ((LegacyFault.missing file).report library))

/-- The text of a legacy file. Bytes that are no text are no fault of the library. -/
def legacyText (t : FileTree) (library : String) (file : Path) : Except Failure (List Char) :=
  match t.readText file with
  | .ok text => .ok text
  | .error (.encoding fault) => .error (.text fault)
  | .error (.file fault) =>
    .error (.diagnostic ((LegacyFault.unreadable file fault).report library))

/-- Resolve an item against the groups of an artifact and add it. -/
def addResolved (groups : GroupMap) (free : List Ident) (group : Group) (item : Item) :
    Except Failure Group :=
  match Resolution.resolve groups.names free item with
  | .error fault => .error (.ofResolution fault)
  | .ok resolved => (group.add resolved).mapError .ofGroup

/-- A group with its items resolved, in canonical order. -/
def resolveGroup (groups : GroupMap) (free : List Ident) (group : Group) : Except Failure Group :=
  group.sortedItems.foldlM (addResolved groups free)
    { space := group.space, docstring := group.docstring }

/-- What the legacy file describes, resolved when the groups of the artifact are given. -/
def readLegacy (t : FileTree) (library : String) (file : Path) (groups : Option GroupMap)
    (free : List Ident) : Traced Group := do
  let text ← .ofExcept (legacyText t library file)
  let group ← .ofExcept ((Legacy.read library text).mapError (.ofLegacy library))
  .note (.readLegacy file group.items.length)
  match groups with
  | none => pure group
  | some groups => .ofExcept (resolveGroup groups free group)

/-- The group of the legacy file that a group declares, if it declares any. -/
def legacyGroup (t : FileTree) (library : String) (root : Option Path) (groups : Option GroupMap)
    (free : List Ident) (group : Group) : Traced (Option Group) :=
  match legacyFile? t library root group with
  | .error failure => .fail failure
  | .ok none => pure none
  | .ok (some file) => some <$> readLegacy t library file groups free

end Bindery.Library
