import Bindery.Artifact.Frame
/-!
# Library images

A library image starts with the magic of a known object format. Its frames are found by looking for
their magic bytes, each after the end of the one before.
-/
namespace Bindery.Artifact

/-- The image formats: ELF, PE, and the byte orders and widths of Mach-O. -/
def imageMagics : List (List UInt8) := [
  [0x7F, 0x45, 0x4C, 0x46], [0x4D, 0x5A], [0xFE, 0xED, 0xFA, 0xCE], [0xFE, 0xED, 0xFA, 0xCF],
  [0xCE, 0xFA, 0xED, 0xFE], [0xCF, 0xFA, 0xED, 0xFE], [0xCA, 0xFE, 0xBA, 0xBE]]

def elfMagic : List UInt8 := [0x7F, 0x45, 0x4C, 0x46]

def isImage (bytes : List UInt8) : Bool := imageMagics.any fun magic => magic.isPrefixOf bytes

/-- The bytes from the first frame magic on, and how many stand before it. `passed` bytes stand
before the ones that are looked at. -/
def findFrame (passed : Nat) : List UInt8 → Option (Nat × List UInt8)
  | [] => none
  | b :: rest =>
    if Frame.magic.isPrefixOf (b :: rest) then some (passed, b :: rest)
    else findFrame (passed + 1) rest

/-- The offset of a frame and what is wrong with it. -/
structure ScanFault where
  offset : Nat
  fault : Frame.Fault
  deriving Repr

def ScanFault.message (f : ScanFault) : String :=
  let place := " at offset " ++ toString f.offset
  match f.fault with
  | .truncatedHeader => "truncated metadata record header" ++ place
  | .version found => "unsupported metadata record version " ++ toString found ++ place
  | .flags => "unsupported metadata record flags" ++ place
  | .truncated => "truncated metadata record" ++ place
  | .digest => "metadata record sha256 mismatch" ++ place
  | .json => "metadata record" ++ place ++ " is not valid JSON"
  | .refused lack => lack.message
  | .item fault => fault.message

/-- The items of the frames in the bytes, the first of which stands at `offset`. -/
def scanFrom : (fuel : Nat) → (offset : Nat) → List UInt8 → Except ScanFault (List Item)
  | 0, _, _ => .ok []
  | fuel + 1, offset, bytes =>
    match findFrame offset bytes with
    | none => .ok []
    | some (found, frame) =>
      match Frame.decode frame with
      | .error fault => .error ⟨found, fault⟩
      | .ok (item, rest) =>
        (scanFrom fuel (found + (frame.length - rest.length)) rest).map (item :: ·)

def scan (bytes : List UInt8) : Except ScanFault (List Item) := scanFrom (bytes.length + 1) 0 bytes

/-- The layout of an image that holds the frames of the items: the magic, a gap, and each frame with
a gap after it. -/
def image (magic : List UInt8) (items : List Item) : List UInt8 :=
  magic ++ List.replicate 60 0 ++
    items.flatMap fun item => Frame.encode item ++ List.replicate 8 0

/-- The image of the items, unless the text of one of them cannot be written. -/
def writeImage (magic : List UInt8) (items : List Item) : Except Json.Unwritable (List UInt8) :=
  (items.mapM Frame.write).map fun frames =>
    magic ++ List.replicate 60 0 ++ frames.flatMap fun frame => frame ++ List.replicate 8 0

end Bindery.Artifact
