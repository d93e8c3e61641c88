import Bindery.Proofs.Json.RoundTrip
import Mathlib.Data.List.Nodup
/-!
# Members in canonical order

Putting the members of objects in order changes neither what a key leads to nor whether a value is
read back.
-/
namespace Bindery.Json

/-- The members of an object in canonical order, and so inside their values. -/
def sortedMembers (members : List (String × Json)) : List (String × Json) :=
  Order.sortBy (Order.on Prod.fst Order.compareText) (sortValues members)

@[simp] theorem sortMembers_null : sortMembers .null = .null := by rw [sortMembers]

@[simp] theorem sortMembers_bool (b : Bool) : sortMembers (.bool b) = .bool b := by rw [sortMembers]

@[simp] theorem sortMembers_int (n : Int) : sortMembers (.int n) = .int n := by rw [sortMembers]

@[simp] theorem sortMembers_str (s : String) : sortMembers (.str s) = .str s := by rw [sortMembers]

theorem sortElements_eq (elements : List Json) :
    sortElements elements = elements.map sortMembers := by
  induction elements with
  | nil => rfl
  | cons element rest ih => simp [sortElements, ih]

@[simp] theorem sortMembers_arr (elements : List Json) :
    sortMembers (.arr elements) = .arr (elements.map sortMembers) := by
  rw [sortMembers, sortElements_eq]

@[simp] theorem sortMembers_obj (members : List (String × Json)) :
    sortMembers (.obj members) = .obj (sortedMembers members) := by
  rw [sortMembers, sortedMembers]

theorem sortValues_eq (members : List (String × Json)) :
    sortValues members = members.map fun m => (m.1, sortMembers m.2) := by
  induction members with
  | nil => rfl
  | cons m rest ih => simp [sortValues, ih]

/-- Sorting keeps the members, with their values sorted. -/
theorem perm_sortedMembers (members : List (String × Json)) :
    (sortedMembers members).Perm (members.map fun m => (m.1, sortMembers m.2)) := by
  rw [← sortValues_eq]
  exact Order.perm_sortBy _ _

/-- No key comes twice behind sorting if none did before. -/
theorem nodup_keys_sortedMembers {members : List (String × Json)}
    (h : (members.map Prod.fst).Nodup) : ((sortedMembers members).map Prod.fst).Nodup := by
  refine (((perm_sortedMembers members).map Prod.fst).nodup_iff).2 ?_
  simpa [Function.comp_def] using h

/-- Members with distinct keys have one canonical order, however they came. -/
theorem sortedMembers_eq_of_perm {members members' : List (String × Json)}
    (h : members.Perm members') (hkeys : (members.map Prod.fst).Nodup) :
    sortedMembers members = sortedMembers members' := by
  rw [sortedMembers, sortedMembers, sortValues_eq, sortValues_eq]
  refine Order.sortBy_eq_of_perm (h.map _) fun a ha b hb hab => ?_
  have hkeys : ((members.map fun m => (m.1, m.2.sortMembers)).map Prod.fst).Nodup := by
    simpa [Function.comp_def] using hkeys
  exact List.inj_on_of_nodup_map hkeys ha hb (Order.eq_of_compareText hab)

@[simp] theorem member?_nil (key : String) : member? [] key = none := rfl

@[simp] theorem member?_cons (k : String) (j : Json) (rest : List (String × Json)) (key : String) :
    member? ((k, j) :: rest) key = if k = key then some j else member? rest key := by
  by_cases h : k = key <;> simp [member?, h]

@[simp] theorem memberOrNull_cons (k : String) (j : Json) (rest : List (String × Json))
    (key : String) :
    memberOrNull ((k, j) :: rest) key = if k = key then j else memberOrNull rest key := by
  by_cases h : k = key <;> simp [memberOrNull, h]

/-- Where no key comes twice, a key has the value it stands with. -/
theorem member?_eq_some_iff {members : List (String × Json)} (h : (members.map Prod.fst).Nodup)
    (key : String) (j : Json) : member? members key = some j ↔ (key, j) ∈ members :=
  Table.get?_eq_some_iff ⟨members, h⟩ key j

@[simp] theorem member?_sortedMembers {members : List (String × Json)}
    (h : (members.map Prod.fst).Nodup) (key : String) :
    member? (sortedMembers members) key = (member? members key).map sortMembers := by
  apply Option.ext
  intro j
  rw [member?_eq_some_iff (nodup_keys_sortedMembers h), (perm_sortedMembers members).mem_iff,
    Option.map_eq_some_iff]
  simp only [List.mem_map, Prod.mk.injEq, member?_eq_some_iff h]
  constructor
  · rintro ⟨⟨k, i⟩, hmem, rfl, rfl⟩
    exact ⟨i, hmem, rfl⟩
  · rintro ⟨i, hmem, rfl⟩
    exact ⟨(key, i), hmem, rfl, rfl⟩

@[simp] theorem memberOrNull_sortedMembers {members : List (String × Json)}
    (h : (members.map Prod.fst).Nodup) (key : String) :
    memberOrNull (sortedMembers members) key = (memberOrNull members key).sortMembers := by
  unfold memberOrNull
  rw [member?_sortedMembers h]
  cases member? members key with
  | none => exact sortMembers_null.symm
  | some j => rfl

/-- A legible value stays legible when its members are sorted. -/
theorem Legible.sortMembers {floats : Decimal.Binary64 → Prop} {j : Json} (h : Legible floats j) :
    Legible floats j.sortMembers := by
  induction h with
  | null => exact .null
  | bool b => exact .bool b
  | int hn => exact .int hn
  | float hx => exact .float hx
  | str s => exact .str s
  | @arr elements _ ih =>
    rw [sortMembers_arr]
    refine .arr fun j hj => ?_
    obtain ⟨i, hi, rfl⟩ := List.mem_map.1 hj
    exact ih i hi
  | @obj members hkeys _ ih =>
    rw [sortMembers_obj]
    refine .obj (nodup_keys_sortedMembers hkeys) fun m hm => ?_
    obtain ⟨i, hi, rfl⟩ := List.mem_map.1 ((perm_sortedMembers members).mem_iff.1 hm)
    exact ih i hi

/-- A value that its canonical text gives back, with its members in canonical order. -/
def ReadsBack (j : Json) : Prop := parseChars j.canonicalChars = .ok j.sortMembers

/-- Without binary64 numbers nothing needs to be known about their text. -/
theorem Legible.readsBack {j : Json} (h : Legible (fun _ => False) j) : ReadsBack j :=
  (h.sortMembers.readable fun _ hx => hx.elim).parseChars

end Bindery.Json
