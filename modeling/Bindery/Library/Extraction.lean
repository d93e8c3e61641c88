import Bindery.Artifact.Image
import Bindery.Traced
/-!
# Extraction

The items of a library file, and their groups.
-/
namespace Bindery.Library

/-- Why a file yields no items. -/
inductive ExtractionFault where
  | unreadable (fault : FileFault)
  | notImage
  | corrupt (fault : Artifact.ScanFault)
  | noItems
  deriving Repr

def ExtractionFault.message : ExtractionFault → String
  | unreadable fault => "cannot read library: " ++ fault.message
  | notImage => "not a shared library image"
  | corrupt fault => "corrupt metadata: " ++ fault.message
  | noItems => "no embedded interface metadata found"

/-- The failure of a run that a fault in its library ends. Half of a surrogate pair is no fault of
the library, only beyond what texts hold, so no report blames the library for it. -/
def ExtractionFault.failure (library : Path) (fault : ExtractionFault) : Failure :=
  let report := Failure.diagnostic {
    reason := .extraction, message := fault.message, artifact := library.render }
  match fault with
  | unreadable cause => if cause.fromSystem then report else .file cause
  | corrupt ⟨_, .refused .halfPair⟩ => .value Json.Lack.halfPair.message
  | _ => report

/-- The items of an image, of which there must be one at least. -/
def itemsOfImage (bytes : List UInt8) : Except ExtractionFault (List Item) :=
  if Artifact.isImage bytes = false then .error .notImage
  else match Artifact.scan bytes with
    | .error fault => .error (.corrupt fault)
    | .ok [] => .error .noItems
    | .ok (item :: items) => .ok (item :: items)

def itemsOfFile (t : FileTree) (library : Path) : Except ExtractionFault (List Item) :=
  match t.read library with
  | .error fault => .error (.unreadable fault)
  | .ok bytes => itemsOfImage bytes

/-- The items of a library file, in the order of the file. -/
def extract (t : FileTree) (library : Path) : Traced (List Item) :=
  match itemsOfFile t library with
  | .error fault => .fail (fault.failure library)
  | .ok items => ⟨[.extracted items.length library], .ok items⟩

/-- How many of the items join a group; namespace items only declare one. -/
def memberCount (items : List Item) : Nat := (items.filter fun item => !item.isNamespace).length

def group (items : List Item) : Traced GroupMap :=
  match GroupMap.ofItems items with
  | .error fault => .fail (.ofGroup fault)
  | .ok groups => ⟨[.grouped (memberCount items) groups.entries.length], .ok groups⟩

end Bindery.Library
