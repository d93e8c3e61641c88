import Bindery.Library.Extraction
import Bindery.Proofs.Artifact.Image
import Bindery.Proofs.FileTree
/-!
# Items survive a library file

An image written to a file yields its items again, in their order.
-/
namespace Bindery.Library

open Artifact Outcome

/-- The items of an image are those of its frames, unless it has none. -/
theorem toOption_itemsOfImage {magic : List UInt8} (h : magic ∈ imageMagics) {items : List Item}
    (hsize : ∀ item ∈ items, (Frame.payload item).length < 2 ^ 32) :
    (itemsOfImage (image magic items)).toOption =
      (items.mapM Frame.reread).toOption.bind fun read =>
        if read = [] then none else some read := by
  rw [← scan_image h hsize, itemsOfImage, isImage_image h]
  cases scan (image magic items) with
  | error fault => simp
  | ok read => cases read <;> simp

theorem outcome_extract (t : FileTree) (library : Path) :
    (extract t library).outcome = (itemsOfFile t library).mapError (·.failure library) := by
  unfold extract
  cases itemsOfFile t library <;> rfl

/-- What a written image yields is what its payloads describe, and nothing for no payload. -/
theorem toOption_extract {t written : FileTree} {library : Path} {magic : List UInt8}
    {items : List Item} (h : magic ∈ imageMagics)
    (hsize : ∀ item ∈ items, (Frame.payload item).length < 2 ^ 32)
    (hstore : t.store library (image magic items) = (written, .ok ())) :
    (extract written library).outcome.toOption =
      (items.mapM Frame.reread).toOption.bind fun read =>
        if read = [] then none else some read := by
  rw [← toOption_itemsOfImage h hsize, extract, itemsOfFile, FileTree.read_of_store hstore]
  simp only
  cases itemsOfImage (image magic items) <;> rfl

/-- What is extracted from a stored image is what its payloads spell. -/
theorem extract_eq_ok {t written : FileTree} {library : Path} {magic : List UInt8}
    {items read : List Item} (h : magic ∈ imageMagics)
    (hsize : ∀ item ∈ items, (Frame.payload item).length < 2 ^ 32)
    (hstore : t.store library (image magic items) = (written, .ok ())) :
    (extract written library).outcome = .ok read ↔
      items.mapM Frame.reread = .ok read ∧ read ≠ [] := by
  rw [← toOption_eq_some, toOption_extract h hsize hstore, Option.bind_eq_some_iff]
  simp only [toOption_eq_some, Option.ite_none_left_eq_some, Option.some.injEq]
  constructor
  · rintro ⟨_, hread, hne, rfl⟩
    exact ⟨hread, hne⟩
  · rintro ⟨hread, hne⟩
    exact ⟨read, hread, hne, rfl⟩

/-- The items of a stored image are found in it, if their indexes are short enough. -/
theorem itemsOfFile_store {t written : FileTree} {library : Path} {magic : List UInt8}
    {items : List Item} (hmagic : magic ∈ imageMagics) (hitems : items ≠ [])
    (hsize : ∀ item ∈ items, (Frame.payload item).length < 2 ^ 32)
    (hindex : ∀ item ∈ items, item.HasShortIndex)
    (hstore : t.store library (image magic items) = (written, .ok ())) :
    itemsOfFile written library = .ok items := by
  have hall : items.mapM Frame.reread = .ok items := by
    rw [mapM_eq_ok, List.forall₂_same]
    exact fun item h => Frame.reread_eq (item.readsBack_iff.2 (hindex item h))
  have hextract := (extract_eq_ok hmagic hsize hstore).2 ⟨hall, hitems⟩
  rwa [outcome_extract, mapError_eq_ok] at hextract

/-- The items of a written image come back whatever their texts hold, and in their order. Of the
text of JSON no more is needed than that it is read back, and that fails only for an index of more
digits than the reader of integers takes. -/
theorem extract_store_image {t written : FileTree} {library : Path} {magic : List UInt8}
    {items : List Item} (hmagic : magic ∈ imageMagics) (hitems : items ≠ [])
    (hsize : ∀ item ∈ items, (Frame.payload item).length < 2 ^ 32)
    (hstore : t.store library (image magic items) = (written, .ok ())) :
    ((∀ item ∈ items, item.toJson.ReadsBack) → (extract written library).outcome = .ok items) ∧
      ∀ item ∈ items, item.toJson.ReadsBack ↔ item.HasShortIndex := by
  refine ⟨fun hread => ?_, fun item _ => item.readsBack_iff⟩
  have hall : items.mapM Frame.reread = .ok items := by
    rw [mapM_eq_ok, List.forall₂_same]
    exact fun item h => Frame.reread_eq (hread item h)
  exact (extract_eq_ok hmagic hsize hstore).2 ⟨hall, hitems⟩

/-- Two items with the frame magic, control characters and quotes in their texts. -/
def awkwardItems : List Item := [
  .record {
    modulePath := "a::\x00", name := "R\"\\\u00fc\x1fUBINDMD\x00", docstring := some ""
    fields := [⟨"f", .optional (.custom "b" "C" (.primitive .u8)), some "\n", none⟩] },
  .traitMethod { modulePath := "a", owner := "T", index := -7, name := "m" }]

theorem extract_awkwardItems :
    ∃ written, FileTree.store {} ⟨"", ["lib.so"]⟩ (image elfMagic awkwardItems) =
        (written, .ok ()) ∧
      (extract written ⟨"", ["lib.so"]⟩).outcome = .ok awkwardItems := by
  have hstore : FileTree.store {} ⟨"", ["lib.so"]⟩ (image elfMagic awkwardItems) =
      (FileTree.put {} ["lib.so"] (.file (image elfMagic awkwardItems)), .ok ()) := rfl
  have hshort : ∀ item ∈ awkwardItems, item.toJson.ReadsBack := by
    intro item h
    rw [Item.readsBack_iff]
    simp only [awkwardItems, List.mem_cons, List.not_mem_nil, or_false] at h
    rcases h with rfl | rfl
    · trivial
    · exact Nat.lt_of_lt_of_le (by decide : 7 < 10) (Nat.le_self_pow (by decide) 10)
  have hsize : ∀ item ∈ awkwardItems, (Frame.payload item).length < 2 ^ 32 := by
    decide +kernel
  exact ⟨_, hstore,
    (extract_store_image (by decide) (by decide) hsize hstore).1 hshort⟩

end Bindery.Library
