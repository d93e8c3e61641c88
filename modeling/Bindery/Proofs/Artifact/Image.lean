import Bindery.Artifact.Image
import Bindery.Proofs.Artifact.Frame
/-!
# The frames of an image

A scan stops at the frames and nowhere else: neither the magic of an image nor the gaps hold the
byte that a frame starts with, and a frame is passed as a whole, whatever its payload holds.
-/
namespace Bindery.Artifact

open Outcome

/-- The byte that starts a frame, a capital U. -/
def frameByte : UInt8 := 0x55

/-- Bytes that hold no first byte of a frame are passed over. -/
theorem findFrame_skip {gap : List UInt8} (h : frameByte ∉ gap) (passed : Nat)
    (rest : List UInt8) :
    findFrame passed (gap ++ rest) = findFrame (passed + gap.length) rest := by
  induction gap generalizing passed with
  | nil => rfl
  | cons b gap ih =>
    rw [List.mem_cons, not_or] at h
    have hprefix : Frame.magic.isPrefixOf (b :: (gap ++ rest)) = false := by
      have hb : (0x55 == b) = false := beq_eq_false_iff_ne.2 h.1
      simp [Frame.magic, List.isPrefixOf, hb]
    rw [List.cons_append, findFrame, hprefix, if_neg (by simp), ih h.2]
    congr 1
    simp only [List.length_cons]
    omega

theorem findFrame_none {gap : List UInt8} (h : frameByte ∉ gap) (passed : Nat) :
    findFrame passed gap = none := by
  simpa [findFrame] using findFrame_skip h passed []

theorem findFrame_of_magic {bytes : List UInt8} (h : Frame.magic <+: bytes) (passed : Nat) :
    findFrame passed bytes = some (passed, bytes) := by
  cases bytes with
  | nil => cases List.prefix_nil.1 h
  | cons b rest => rw [findFrame, if_pos (List.isPrefixOf_iff_prefix.2 h)]

/-- The next frame of an image is found where it starts. -/
theorem findFrame_encode (item : Item) (passed : Nat) (rest : List UInt8) :
    findFrame passed (Frame.encode item ++ rest) = some (passed, Frame.encode item ++ rest) := by
  refine findFrame_of_magic ?_ passed
  simp [Frame.encode, Frame.ofPayload]

/-- The zeros behind a frame. -/
def gapAfter : List UInt8 := List.replicate 8 0

/-- The frames of items, each with the gap after it. -/
def frames (items : List Item) : List UInt8 :=
  items.flatMap fun item => Frame.encode item ++ gapAfter

theorem not_mem_gapAfter : frameByte ∉ gapAfter := by decide

/-- A scan passes the frame of an item as a whole. -/
theorem scanFrom_encode {item : Item} (hsize : (Frame.payload item).length < 2 ^ 32)
    {gap : List UInt8} (hgap : frameByte ∉ gap) (fuel offset : Nat) (rest : List UInt8) :
    scanFrom (fuel + 1) offset (gap ++ (Frame.encode item ++ rest)) =
      match Frame.reread item with
      | .error fault => .error ⟨offset + gap.length, fault⟩
      | .ok read =>
        (scanFrom fuel (offset + gap.length + (Frame.encode item).length) rest).map
          (read :: ·) := by
  rw [scanFrom, findFrame_skip hgap, findFrame_encode]
  simp only [Frame.decode_encode hsize rest]
  cases Frame.reread item with
  | error fault => rfl
  | ok read => simp only [map_ok, List.length_append, Nat.add_sub_cancel]

/-- A scan gives what the payloads describe, in the order of the frames. -/
theorem scanFrom_frames {items : List Item}
    (hsize : ∀ item ∈ items, (Frame.payload item).length < 2 ^ 32)
    {gap : List UInt8} (hgap : frameByte ∉ gap) {fuel : Nat} (hfuel : items.length < fuel)
    (offset : Nat) :
    (scanFrom fuel offset (gap ++ frames items)).toOption =
      (items.mapM Frame.reread).toOption := by
  induction items generalizing gap fuel offset with
  | nil =>
    obtain ⟨fuel, rfl⟩ := Nat.exists_eq_add_one_of_ne_zero (by omega : fuel ≠ 0)
    simp [frames, scanFrom, findFrame_none hgap]
  | cons item items ih =>
    obtain ⟨fuel, rfl⟩ := Nat.exists_eq_add_one_of_ne_zero (by omega : fuel ≠ 0)
    have hframes : frames (item :: items) = Frame.encode item ++ (gapAfter ++ frames items) := by
      simp [frames]
    have hmore : items.length < fuel := by simpa using hfuel
    have hrest := ih (fun other h => hsize other (List.mem_cons_of_mem _ h)) not_mem_gapAfter hmore
    rw [hframes, scanFrom_encode (hsize item (by simp)) hgap, List.mapM_cons]
    cases Frame.reread item with
    | error fault => simp
    | ok read =>
      simp only [toOption_map, hrest]
      cases items.mapM Frame.reread <;> rfl

theorem length_le_length_frames (items : List Item) : items.length ≤ (frames items).length := by
  induction items with
  | nil => simp [frames]
  | cons item items ih =>
    simp only [frames, List.flatMap_cons, List.length_append, List.length_cons] at ih ⊢
    have : gapAfter.length = 8 := rfl
    omega

theorem not_mem_imageMagic {magic : List UInt8} (h : magic ∈ imageMagics) :
    frameByte ∉ magic ++ List.replicate 60 0 := by
  revert h magic
  decide

/-- An image is known by its magic. -/
theorem isImage_image {magic : List UInt8} (h : magic ∈ imageMagics) (items : List Item) :
    isImage (image magic items) = true := by
  refine List.any_eq_true.2 ⟨magic, h, ?_⟩
  rw [List.isPrefixOf_iff_prefix, image, List.append_assoc]
  exact List.prefix_append _ _

/-- To scan an image is to read its items one by one. -/
theorem scan_image {magic : List UInt8} (h : magic ∈ imageMagics) {items : List Item}
    (hsize : ∀ item ∈ items, (Frame.payload item).length < 2 ^ 32) :
    (scan (image magic items)).toOption = (items.mapM Frame.reread).toOption := by
  have hlength := length_le_length_frames items
  refine scanFrom_frames hsize (not_mem_imageMagic h) ?_ 0
  simp only [image, List.length_append]
  exact Nat.lt_succ_of_le (Nat.le_trans hlength (Nat.le_add_left _ _))

/-- A frame is written for every item whose index is short enough. -/
theorem Frame.write_eq_ok {item : Item} {bytes : List UInt8} :
    Frame.write item = .ok bytes ↔ item.HasShortIndex ∧ bytes = Frame.encode item := by
  rw [Frame.write, map_eq_ok]
  simp only [Json.canonicalBytes_eq_ok, Item.isWritable_toJson_iff]
  constructor
  · rintro ⟨_, ⟨hshort, rfl⟩, rfl⟩
    exact ⟨hshort, rfl⟩
  · rintro ⟨hshort, rfl⟩
    exact ⟨_, ⟨hshort, rfl⟩, rfl⟩

/-- What is proved of `image` is true of what is written: an image is written as it is laid out,
unless an item has an index that is too long. -/
theorem writeImage_eq_ok {magic : List UInt8} {items : List Item} {bytes : List UInt8} :
    writeImage magic items = .ok bytes ↔
      (∀ item ∈ items, item.HasShortIndex) ∧ bytes = image magic items := by
  simp only [writeImage, map_eq_ok, mapM_eq_ok, Frame.write_eq_ok]
  constructor
  · rintro ⟨frames, hframes, rfl⟩
    have hsame : frames = items.map Frame.encode :=
      ((map_eq_of_related hframes fun _ _ h => h.2.symm).trans (List.map_id frames)).symm
    refine ⟨fun item hitem => ?_, ?_⟩
    · obtain ⟨_, -, hshort, -⟩ := exists_right hframes hitem
      exact hshort
    · rw [hsame, image, List.flatMap_map]
  · rintro ⟨hshort, rfl⟩
    refine ⟨items.map Frame.encode, ?_, ?_⟩
    · rw [List.forall₂_map_right_iff, List.forall₂_same]
      exact fun item hitem => ⟨hshort item hitem, rfl⟩
    · rw [image, List.flatMap_map]

end Bindery.Artifact
