import Bindery.Item.Json
import Bindery.Proofs.Json.Writable
import Bindery.Proofs.Ty.Json
/-!
# Items are read back

The reader of items undoes the writer, also after the members have been put in order. The only
number of an item is the index of a trait method, so an item is legible unless that is too long.
-/
namespace Bindery

open Json Outcome

@[simp] theorem Json.sortMembers_ofText? (o : Option String) :
    (ofText? o).sortMembers = ofText? o := by
  cases o <;> simp [ofText?, ofOption]

theorem Json.legible_ofText? (o : Option String) {floats : Decimal.Binary64 → Prop} :
    Legible floats (ofText? o) := by
  cases o with
  | none => exact .null
  | some s => exact .str s

namespace Item

variable {members : Members} (hkeys : (members.map Prod.fst).Nodup) (owner key : String)

include hkeys in
@[simp] theorem readOptionalText_sortedMembers :
    readOptionalText owner (sortedMembers members) key =
      readOptionalText owner [(key, (memberOrNull members key).sortMembers)] key := by
  simp [readOptionalText, memberOrNull_sortedMembers hkeys]

include hkeys in
@[simp] theorem readOptionalTy_sortedMembers :
    readOptionalTy (sortedMembers members) key =
      readOptionalTy [(key, (memberOrNull members key).sortMembers)] key := by
  simp [readOptionalTy, memberOrNull_sortedMembers hkeys]

include hkeys in
@[simp] theorem readList_sortedMembers {α : Type} (read : Json → Except Malformed α) :
    readList owner read (sortedMembers members) key =
      readList owner read [(key, (memberOrNull members key).sortMembers)] key := by
  simp [readList, memberOrNull_sortedMembers hkeys]

@[simp] theorem readOptionalText_ofText? (o : Option String) :
    readOptionalText owner [(key, ofText? o)] key = .ok o := by
  cases o <;> simp [readOptionalText, ofText?, ofOption]

@[simp] theorem readOptionalTy_tyJson? (o : Option Ty) :
    readOptionalTy [(key, (tyJson? o).sortMembers)] key = .ok o := by
  cases o with
  | none => simp [readOptionalTy, tyJson?, ofOption]
  | some ty =>
    obtain ⟨entries, hentries⟩ : ∃ entries, (tyJson? (some ty)).sortMembers = .obj entries := by
      cases ty <;> simp [tyJson?, ofOption, Ty.toJson]
    have hread : Ty.ofJson (.obj entries) = .ok ty := by
      rw [← hentries]
      exact ty.ofJson_sortMembers_toJson
    simp [readOptionalTy, hentries, hread]

/-- A list of entries that are read back one by one. -/
theorem readList_map {α : Type} {read : Json → Except Malformed α} {write : α → Json}
    (hread : ∀ a, read (write a).sortMembers = .ok a) (xs : List α) :
    readList owner read [(key, .arr (xs.map (sortMembers ∘ write)))] key = .ok xs := by
  have hall : (xs.map (sortMembers ∘ write)).mapM read = .ok xs :=
    mapM_map_eq_ok fun a _ => hread a
  simp [readList, hall]

theorem readParam_toJson (p : Param) : readParam p.toJson.sortMembers = .ok p := by
  simp [Param.toJson, readParam, requireText, Ty.ofMember_eq]

theorem readField_toJson (f : Field) : readField f.toJson.sortMembers = .ok f := by
  simp [Field.toJson, readField, requireText, Ty.ofMember_eq]

theorem readVariant_toJson (v : Variant) : readVariant v.toJson.sortMembers = .ok v := by
  simp [Variant.toJson, readVariant, requireText, readList_map _ _ readField_toJson]

/-- The members of an item as they are written. -/
def membersJson (item : Item) : Members := ("kind", .str item.kind) :: item.fieldsJson

/-- No key of an item comes twice. -/
theorem nodup_keys_membersJson (item : Item) : (item.membersJson.map Prod.fst).Nodup := by
  cases item <;> simp [membersJson, fieldsJson]

theorem canonicalChars_toJson (item : Item) :
    item.toJson.canonicalChars = compact escapeChar (.obj (sortedMembers item.membersJson)) := by
  rw [canonicalChars, toJson, sortMembers_obj, membersJson]

/-- The reader that the kind of an item selects. -/
def reader : Item → Members → Except Malformed Item
  | space _ => readNamespace
  | legacy _ => readLegacy
  | custom _ => readCustom
  | record _ => readRecord
  | enumeration _ => readEnumeration
  | object _ => readObject
  | callback _ => readCallback
  | constructor _ => readConstructor
  | method _ => readMethod
  | traitMethod _ => readTraitMethod
  | function _ => readFunction

theorem reader?_kind (item : Item) : reader? item.kind = some item.reader := by
  cases item <;> simp [kind, reader?, reader]

theorem ofJson_membersJson (item : Item) :
    ofJson item.toJson.sortMembers = item.reader (sortedMembers item.membersJson) := by
  have hkind : memberOrNull (sortedMembers item.membersJson) "kind" = .str item.kind := by
    rw [memberOrNull_sortedMembers item.nodup_keys_membersJson]
    simp [membersJson]
  rw [toJson, sortMembers_obj]
  simp only [ofJson]
  rw [← membersJson, hkind]
  simp [reader?_kind]

/-- The reader undoes the writer, also behind a change in the order of members. -/
theorem ofJson_toJson (item : Item) : ofJson item.toJson.sortMembers = .ok item := by
  rw [ofJson_membersJson]
  cases item with
  | space n =>
    simp [reader, membersJson, fieldsJson, readNamespace, readText?]
  | legacy m =>
    simp [reader, membersJson, fieldsJson, readLegacy, readText?]
  | custom c =>
    simp [reader, membersJson, fieldsJson, readCustom, readText?, readTy?]
  | record r =>
    simp [reader, membersJson, fieldsJson, readRecord, readText?,
      readList_map _ _ readField_toJson]
  | enumeration e =>
    simp [reader, membersJson, fieldsJson, readEnumeration, readText?, flagOr,
      readList_map _ _ readVariant_toJson]
  | object o =>
    simp [reader, membersJson, fieldsJson, readObject, readText?, flagOr]
  | callback c =>
    simp [reader, membersJson, fieldsJson, readCallback, readText?]
  | constructor c =>
    simp [reader, membersJson, fieldsJson, paramsJson, readConstructor, readText?,
      readList_map _ _ readParam_toJson]
  | method m =>
    simp [reader, membersJson, fieldsJson, paramsJson, readMethod, readText?, flagOr,
      readList_map _ _ readParam_toJson]
  | traitMethod m =>
    simp [reader, membersJson, fieldsJson, paramsJson, readTraitMethod, readText?, readInt?,
      flagOr, readList_map _ _ readParam_toJson]
  | function f =>
    simp [reader, membersJson, fieldsJson, paramsJson, readFunction, readText?, flagOr,
      readList_map _ _ readParam_toJson]

variable {floats : Decimal.Binary64 → Prop}

theorem legible_map {write : α → Json} {xs : List α} (h : ∀ a, Legible floats (write a)) :
    Legible floats (.arr (xs.map write)) := by
  refine .arr fun j hj => ?_
  obtain ⟨a, -, rfl⟩ := List.mem_map.1 hj
  exact h a

theorem legible_param (p : Param) : Legible floats p.toJson :=
  .obj (by simp) (by simp [Legible.str, Ty.legible_toJson])

theorem legible_field (f : Field) : Legible floats f.toJson :=
  .obj (by simp) (by simp [Legible.str, Ty.legible_toJson, legible_ofText?])

theorem legible_variant (v : Variant) : Legible floats v.toJson :=
  .obj (by simp) (by simp [Legible.str, legible_ofText?, legible_map legible_field])

theorem legible_tyJson? (o : Option Ty) : Legible floats (tyJson? o) := by
  cases o with
  | none => exact .null
  | some ty => exact ty.legible_toJson

/-- The index of a trait method is an integer that the reader takes. -/
def HasShortIndex : Item → Prop
  | traitMethod m => IsShort m.index
  | _ => True

/-- An item with a short index is legible. -/
theorem legible_toJson {item : Item} (h : item.HasShortIndex) : Legible floats item.toJson := by
  refine .obj item.nodup_keys_membersJson ?_
  cases item with
  | space n => simp [fieldsJson, Legible.str]
  | legacy m => simp [fieldsJson, Legible.str]
  | custom c => simp [fieldsJson, Legible.str, Ty.legible_toJson, legible_ofText?]
  | record r => simp [fieldsJson, Legible.str, legible_map legible_field, legible_ofText?]
  | enumeration e =>
    simp [fieldsJson, Legible.str, Legible.bool, legible_map legible_variant, legible_ofText?]
  | object o => simp [fieldsJson, Legible.str, Legible.bool, legible_ofText?]
  | callback c => simp [fieldsJson, Legible.str, legible_ofText?]
  | constructor c =>
    simp [fieldsJson, paramsJson, Legible.str, legible_map legible_param, legible_tyJson?,
      legible_ofText?]
  | method m =>
    simp [fieldsJson, paramsJson, Legible.str, Legible.bool, legible_map legible_param,
      legible_tyJson?, legible_ofText?]
  | traitMethod m =>
    have hindex : Legible floats (.int m.index) := .int h
    simp [fieldsJson, paramsJson, Legible.str, Legible.bool, hindex, legible_map legible_param,
      legible_tyJson?, legible_ofText?]
  | function f =>
    simp [fieldsJson, paramsJson, Legible.str, Legible.bool, legible_map legible_param,
      legible_tyJson?, legible_ofText?]

/-- An item that the parser reads has a short index. -/
theorem hasShortIndex_of_isRead {item : Item} (h : IsRead item.toJson.sortMembers) :
    item.HasShortIndex := by
  have hread : IsRead (.obj (sortedMembers item.membersJson)) := by
    rwa [← sortMembers_obj]
  cases item with
  | traitMethod m =>
    have hindex : ("index", Json.int m.index) ∈
        sortedMembers (membersJson (traitMethod m)) := by
      rw [(perm_sortedMembers _).mem_iff]
      simp [membersJson, fieldsJson]
    cases hread with
    | obj _ hvalues =>
      cases hvalues _ hindex with
      | int hshort => exact hshort
  | _ => trivial

/-- An index that is too long is the one thing that keeps an item from being written. -/
theorem isWritable_toJson_iff {item : Item} :
    item.toJson.isWritable = true ↔ item.HasShortIndex := by
  constructor
  · intro h
    cases item with
    | traitMethod m =>
      have hindex : ("index", Json.int m.index) ∈ membersJson (traitMethod m) := by
        simp [membersJson, fieldsJson]
      exact isShort_of_isWritable (.obj hindex .int) h
    | _ => trivial
  · intro h
    have hlegible : Legible (fun _ => False) item.toJson := legible_toJson h
    exact hlegible.isWritable

/-- An index that is too long is the one thing that keeps an item from being read back. -/
theorem readsBack_iff (item : Item) : ReadsBack item.toJson ↔ item.HasShortIndex :=
  ⟨fun h => hasShortIndex_of_isRead (isRead_of_parseChars h), fun h => (legible_toJson h).readsBack⟩

end Item
end Bindery
