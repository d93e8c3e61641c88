import Bindery.Artifact.Frame
import Bindery.Proofs.Item.Json
import Bindery.Proofs.Text.Utf8
import Mathlib.Algebra.Group.Nat.Defs
/-!
# Frames are read back

Decoding a frame depends on its payload alone, and the payload of an item gives the item back when
its JSON is read back. What stands behind a frame is left as it is.
-/
namespace Bindery.Artifact

open Outcome

@[simp] theorem length_littleEndian (width n : Nat) : (littleEndian width n).length = width := by
  induction width generalizing n with
  | zero => rfl
  | succ width ih => simp [littleEndian, ih]

/-- A number that fits into its bytes is read back. -/
theorem ofLittleEndian_littleEndian (width : Nat) {n : Nat} (h : n < 256 ^ width) :
    ofLittleEndian (littleEndian width n) = n := by
  induction width generalizing n with
  | zero => simp at h; simp [littleEndian, ofLittleEndian, h]
  | succ width ih =>
    have hrest := ih (n := n / 256) (by rw [Nat.pow_succ] at h; omega)
    rw [littleEndian, ofLittleEndian, hrest, Utf8.toNat_ofNat (Nat.mod_lt _ (by decide))]
    omega

/-- Bytes of one length are told apart by the numbers they spell. -/
theorem eq_of_ofLittleEndian {bytes bytes' : List UInt8} (hlength : bytes.length = bytes'.length)
    (h : ofLittleEndian bytes = ofLittleEndian bytes') : bytes = bytes' := by
  induction bytes generalizing bytes' with
  | nil => exact (List.length_eq_zero_iff.1 hlength.symm).symm
  | cons b bytes ih =>
    obtain ⟨b', bytes', rfl⟩ := List.exists_cons_of_length_eq_add_one hlength.symm
    have hb := b.toNat_lt
    have hb' := b'.toNat_lt
    simp only [ofLittleEndian] at h
    rw [ih (Nat.succ.inj hlength) (by omega), UInt8.toNat_inj.1 (by omega : b.toNat = b'.toNat)]

namespace Frame

/-- The item that a payload describes, once length and digest agree. -/
def readPayload (payload : List UInt8) : Except Fault Item :=
  match Utf8.decodeChars payload with
  | .error _ => .error .json
  | .ok text =>
    match Json.parseChars text with
    | .error fault => .error (if fault.lack.isSyntax then .json else .refused fault.lack)
    | .ok json => (Item.ofJson json).mapError .item

theorem take_drop_append {a b c : List UInt8} {start width : Nat} (ha : a.length = start)
    (hb : b.length = width) : ((a ++ (b ++ c)).drop start).take width = b := by
  subst ha hb
  simp

/-- The fields of a frame, each read off its place. -/
theorem decode_fields {v f n d : List UInt8} (hv : v.length = 2) (hf : f.length = 2)
    (hn : n.length = 4) (hd : d.length = 32) (body : List UInt8) :
    decode (magic ++ v ++ f ++ n ++ d ++ body) =
      if ofLittleEndian v ≠ version then .error (.version (ofLittleEndian v))
      else if ofLittleEndian f ≠ 0 then .error .flags
      else if body.length < ofLittleEndian n then .error .truncated
      else if Sha256.digest (body.take (ofLittleEndian n)) ≠ d then .error .digest
      else (readPayload (body.take (ofLittleEndian n))).map fun item =>
        (item, body.drop (ofLittleEndian n)) := by
  obtain ⟨bytes, hbytes⟩ : ∃ bytes, bytes = magic ++ v ++ f ++ n ++ d ++ body := ⟨_, rfl⟩
  have hmagic : magic.length = 8 := rfl
  have hsize : ¬ bytes.length < headerSize := by
    simp [hbytes, hmagic, hv, hf, hn, hd, headerSize]
    omega
  have hversion : (bytes.drop 8).take 2 = v := by
    rw [hbytes]
    simpa using take_drop_append (c := f ++ (n ++ (d ++ body))) hmagic hv
  have hflags : (bytes.drop 10).take 2 = f := by
    rw [hbytes]
    simpa using take_drop_append (a := magic ++ v) (c := n ++ (d ++ body))
      (by simp [hmagic, hv]) hf
  have hlength : (bytes.drop 12).take 4 = n := by
    rw [hbytes]
    simpa using take_drop_append (a := magic ++ v ++ f) (c := d ++ body)
      (by simp [hmagic, hv, hf]) hn
  have hdigest : (bytes.drop 16).take 32 = d := by
    rw [hbytes]
    simpa using take_drop_append (a := magic ++ v ++ f ++ n) (c := body)
      (by simp [hmagic, hv, hf, hn]) hd
  have hbody : bytes.drop headerSize = body := by
    rw [hbytes]
    exact List.drop_left' (by simp [hmagic, hv, hf, hn, hd, headerSize])
  rw [← hbytes, decode, if_neg hsize]
  simp only [hversion, hflags, hlength, hdigest, hbody]
  congr 4
  unfold readPayload
  cases Utf8.decodeChars (body.take (ofLittleEndian n)) with
  | error fault => rfl
  | ok text =>
    simp only
    cases Json.parseChars text with
    | error fault => rfl
    | ok json =>
      simp only
      cases Item.ofJson json <;> rfl

/-- A frame is read as far as it goes, and what it carries is read as a payload. -/
theorem decode_ofPayload {payload : List UInt8} (h : payload.length < 2 ^ 32)
    (rest : List UInt8) :
    decode (ofPayload payload ++ rest) = (readPayload payload).map fun item => (item, rest) := by
  have hcount : ofLittleEndian (littleEndian 4 payload.length) = payload.length :=
    ofLittleEndian_littleEndian 4 h
  have hfields := decode_fields (length_littleEndian 2 version) (length_littleEndian 2 0)
    (length_littleEndian 4 payload.length) (Sha256.length_digest payload) (payload ++ rest)
  rw [ofPayload, List.append_assoc, hfields]
  rw [if_neg (by decide), if_neg (by decide), hcount, if_neg (by simp), List.take_left,
    if_neg (by simp), List.drop_left]

/-- The item that the frame of an item describes. -/
def reread (item : Item) : Except Fault Item := readPayload (payload item)

/-- The frame of an item is read as the item that its payload spells. -/
theorem decode_encode {item : Item} (h : (payload item).length < 2 ^ 32)
    (rest : List UInt8) :
    decode (encode item ++ rest) = (reread item).map fun read => (read, rest) :=
  decode_ofPayload h rest

/-- An item whose JSON is read back comes back from its frame. -/
theorem reread_eq {item : Item} (h : Json.ReadsBack item.toJson) : reread item = .ok item := by
  unfold reread readPayload payload
  rw [Utf8.decodeChars_encodeChars]
  simp only
  rw [h]
  simp only [Item.ofJson_toJson]
  rfl

end Frame
end Bindery.Artifact
