import Bindery.Digest.Sha256
import Bindery.Item.Json
import Bindery.Json.Parser
import Bindery.Json.Printer
import Bindery.Text.Utf8
/-!
# Embedded items

An item is embedded in a library as a frame: eight magic bytes, version, flags, the length of the
payload, its SHA-256 digest, and the payload, which is the canonical JSON text of the item in UTF-8.
Numbers are little-endian. A frame is trusted only when length and digest agree.
-/
namespace Bindery.Artifact

/-- The low `width` bytes of a number, least first. -/
def littleEndian : (width : Nat) → Nat → List UInt8
  | 0, _ => []
  | width + 1, n => UInt8.ofNat (n % 256) :: littleEndian width (n / 256)

def ofLittleEndian : List UInt8 → Nat
  | [] => 0
  | b :: rest => b.toNat + 256 * ofLittleEndian rest

namespace Frame

/-- The text `UBINDMD` and a zero byte. -/
def magic : List UInt8 := [0x55, 0x42, 0x49, 0x4E, 0x44, 0x4D, 0x44, 0x00]

def version : Nat := 0

/-- Magic, version, flags, length and digest. -/
def headerSize : Nat := 48

def payload (item : Item) : List UInt8 := Utf8.encodeChars item.toJson.canonicalChars

def ofPayload (payload : List UInt8) : List UInt8 :=
  magic ++ littleEndian 2 version ++ littleEndian 2 0 ++ littleEndian 4 payload.length ++
    Sha256.digest payload ++ payload

/-- The layout of the frame of an item. -/
def encode (item : Item) : List UInt8 := ofPayload (payload item)

/-- The frame of an item, unless its text cannot be written. -/
def write (item : Item) : Except Json.Unwritable (List UInt8) :=
  item.toJson.canonicalBytes.map ofPayload

/-- Why bytes that start with the magic are no frame. -/
inductive Fault where
  | truncatedHeader
  | version (found : Nat)
  | flags
  | truncated
  | digest
  /-- The payload is no JSON text. -/
  | json
  /-- The payload is JSON, but not of a kind that is read. -/
  | refused (lack : Json.Lack)
  | item (fault : Malformed)
  deriving Repr

/-- The item of the frame at the start of the bytes, and the bytes after it. -/
def decode (bytes : List UInt8) : Except Fault (Item × List UInt8) :=
  if bytes.length < headerSize then .error .truncatedHeader
  else
    let found := ofLittleEndian ((bytes.drop 8).take 2)
    let flags := ofLittleEndian ((bytes.drop 10).take 2)
    let length := ofLittleEndian ((bytes.drop 12).take 4)
    let digest := (bytes.drop 16).take 32
    let body := bytes.drop headerSize
    if found ≠ version then .error (.version found)
    else if flags ≠ 0 then .error .flags
    else if body.length < length then .error .truncated
    else if Sha256.digest (body.take length) ≠ digest then .error .digest
    else match Utf8.decodeChars (body.take length) with
      | .error _ => .error .json
      | .ok text =>
        match Json.parseChars text with
        | .error fault => .error (if fault.lack.isSyntax then .json else .refused fault.lack)
        | .ok json =>
          match Item.ofJson json with
          | .error fault => .error (.item fault)
          | .ok item => .ok (item, body.drop length)

end Frame
end Bindery.Artifact
