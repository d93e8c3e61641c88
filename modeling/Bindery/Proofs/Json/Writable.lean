import Bindery.Proofs.Json.Members
/-!
# Values that have a canonical text

The writer refuses a value that holds an integer of more than `maxDigits` digits, and no other.
-/
namespace Bindery.Json

open Outcome

/-- An integer stands somewhere in a value. -/
inductive Holds (n : Int) : Json → Prop where
  | int : Holds n (.int n)
  | arr {elements : List Json} {j : Json} : j ∈ elements → Holds n j → Holds n (.arr elements)
  | obj {members : List (String × Json)} {member : String × Json} :
      member ∈ members → Holds n member.2 → Holds n (.obj members)

/-- A list can be written if its elements can. -/
theorem areWritable_iff {elements : List Json} :
    areWritable elements = true ↔ ∀ j ∈ elements, j.isWritable = true := by
  induction elements with
  | nil => simp [areWritable]
  | cons element rest ih => simp [areWritable, ih]

theorem haveWritable_iff {members : List (String × Json)} :
    haveWritable members = true ↔ ∀ m ∈ members, m.2.isWritable = true := by
  induction members with
  | nil => simp [haveWritable]
  | cons member rest ih => simp [haveWritable, ih]

theorem isWritable_int_iff {n : Int} : isWritable (.int n) = true ↔ IsShort n := by
  rw [isWritable, decide_eq_true_iff, length_ofNat_le_iff, IsShort]

theorem isShort_of_isWritable {j : Json} {n : Int} (hn : Holds n j) (h : j.isWritable = true) :
    IsShort n := by
  induction hn with
  | int => exact isWritable_int_iff.1 h
  | arr hj _ ih => exact ih (areWritable_iff.1 (by rwa [isWritable] at h) _ hj)
  | obj hm _ ih => exact ih (haveWritable_iff.1 (by rwa [isWritable] at h) _ hm)

/-- A value whose integers are short can be written. -/
theorem isWritable_of_isShort (j : Json) (h : ∀ n, Holds n j → IsShort n) :
    j.isWritable = true := by
  match j with
  | .null | .bool _ | .float _ | .str _ => rfl
  | .int n => exact isWritable_int_iff.2 (h n .int)
  | .arr elements =>
    rw [isWritable, areWritable_iff]
    exact fun element helement =>
      isWritable_of_isShort element fun n hn => h n (.arr helement hn)
  | .obj members =>
    rw [isWritable, haveWritable_iff]
    exact fun member hmember =>
      isWritable_of_isShort member.2 fun n hn => h n (.obj hmember hn)
termination_by sizeOf j
decreasing_by
  · have := List.sizeOf_lt_of_mem helement
    simp only [arr.sizeOf_spec]
    omega
  · have := List.sizeOf_lt_of_mem hmember
    have : sizeOf member = 1 + sizeOf member.1 + sizeOf member.2 := rfl
    simp only [obj.sizeOf_spec]
    omega

/-- A value is written exactly when all its integers are short enough. -/
theorem isWritable_iff {j : Json} : j.isWritable = true ↔ ∀ n, Holds n j → IsShort n :=
  ⟨fun h _ hn => isShort_of_isWritable hn h, isWritable_of_isShort j⟩

theorem Legible.isShort {floats : Decimal.Binary64 → Prop} {j : Json} (h : Legible floats j)
    {n : Int} (hn : Holds n j) : IsShort n := by
  induction hn with
  | int => cases h with | int h => exact h
  | arr hj _ ih => cases h with | arr h => exact ih (h _ hj)
  | obj hm _ ih => cases h with | obj _ h => exact ih (h _ hm)

/-- A legible value can be written. -/
theorem Legible.isWritable {floats : Decimal.Binary64 → Prop} {j : Json} (h : Legible floats j) :
    j.isWritable = true :=
  isWritable_iff.2 fun _ => h.isShort

/-- The canonical bytes of a value are its canonical text, if it can be written. -/
theorem canonicalBytes_eq_ok {j : Json} {bytes : List UInt8} :
    j.canonicalBytes = .ok bytes ↔
      j.isWritable = true ∧ Utf8.encodeChars j.canonicalChars = bytes := by
  unfold canonicalBytes canonicalText
  split <;> simp [*, canonical]

/-- A value is not written exactly if it holds an integer that is too long. -/
theorem canonicalBytes_eq_error {j : Json} {cause : Unwritable} :
    j.canonicalBytes = .error cause ↔ ∃ n, Holds n j ∧ ¬ IsShort n := by
  have hfails : j.canonicalBytes = .error cause ↔ ¬ j.isWritable = true := by
    cases cause
    unfold canonicalBytes canonicalText
    split <;> simp [*]
  rw [hfails, isWritable_iff]
  push Not
  rfl

/-- A value has canonical bytes exactly if its integers are short. -/
theorem exists_canonicalBytes_iff {j : Json} :
    (∃ bytes, j.canonicalBytes = .ok bytes) ↔ ∀ n, Holds n j → IsShort n := by
  simp only [canonicalBytes_eq_ok, exists_and_left, exists_eq', and_true, isWritable_iff]

end Bindery.Json
