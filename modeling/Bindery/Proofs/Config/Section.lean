import Bindery.Config.Basic
import Bindery.Proofs.Item.Json
import Mathlib.Data.List.Perm.Basic
/-!
# Settings as JSON

Two sections have the same canonical JSON exactly when they say the same, whatever the order in
which the entries of their maps came.
-/
namespace Bindery

open Json

namespace Section

/-- Two sections that say the same. -/
structure Same (s s' : Section) : Prop where
  language : s.language = s'.language
  moduleName : s.moduleName = s'.moduleName
  cdylibName : s.cdylibName = s'.cdylibName
  packageName : s.packageName = s'.packageName
  externalPackages : ∀ key, s.externalPackages.get? key = s'.externalPackages.get? key
  renames : ∀ key, s.renames.get? key = s'.renames.get? key

/-- Two tables are written alike once their keys are sorted, exactly if they have the same
entries. -/
theorem sortMembers_mapJson_iff {t t' : Table String String} :
    (mapJson t).sortMembers = (mapJson t').sortMembers ↔ ∀ key, t.get? key = t'.get? key := by
  rw [← Table.perm_entries_iff, mapJson, mapJson, sortMembers_obj, sortMembers_obj,
    Json.obj.injEq]
  have hinj : Function.Injective fun entry : String × String => (entry.1, Json.str entry.2) := by
    rintro ⟨_, _⟩ ⟨_, _⟩ h
    simpa using h
  constructor
  · intro h
    have hwritten := (perm_sortedMembers (t.entries.map fun entry => (entry.1, .str entry.2))).symm
    rw [h] at hwritten
    have hperm := hwritten.trans (perm_sortedMembers _)
    simp only [List.map_map, Function.comp_def, sortMembers_str] at hperm
    exact (List.map_perm_map_iff hinj).1 hperm
  · intro h
    refine sortedMembers_eq_of_perm (h.map _) ?_
    simpa [Function.comp_def] using t.nodup

theorem ofText?_injective {a b : Option String} (h : ofText? a = ofText? b) : a = b := by
  cases a <;> cases b <;> simp_all [ofText?, ofOption]

/-- The members of a section as they are written. -/
def membersJson (s : Section) : List (String × Json) := [
  ("language", .str s.language),
  ("module_name", ofText? s.moduleName),
  ("cdylib_name", ofText? s.cdylibName),
  ("package_name", ofText? s.packageName),
  ("external_packages", mapJson s.externalPackages),
  ("rename", mapJson s.renames)]

theorem nodup_keys_membersJson (s : Section) : (s.membersJson.map Prod.fst).Nodup := by
  simp [membersJson]

theorem member?_sorted (s : Section) (key : String) :
    member? (sortedMembers s.membersJson) key = (member? s.membersJson key).map sortMembers :=
  member?_sortedMembers s.nodup_keys_membersJson key

/-- Sections have one canonical JSON exactly when they say the same. -/
theorem sortMembers_toJson_iff {s s' : Section} :
    s.toJson.sortMembers = s'.toJson.sortMembers ↔ s.Same s' := by
  have hjson : ∀ s : Section, s.toJson.sortMembers = .obj (sortedMembers s.membersJson) := by
    intro s
    rw [toJson, sortMembers_obj, membersJson]
  rw [hjson, hjson, Json.obj.injEq]
  constructor
  · intro h
    have hmember : ∀ key, (member? s.membersJson key).map sortMembers =
        (member? s'.membersJson key).map sortMembers := by
      intro key
      rw [← member?_sorted, h, member?_sorted]
    have hlanguage := hmember "language"
    have hmodule := hmember "module_name"
    have hcdylib := hmember "cdylib_name"
    have hpackage := hmember "package_name"
    have hpackages := hmember "external_packages"
    have hrenames := hmember "rename"
    simp only [membersJson, member?_cons, String.reduceEq, if_false, if_true,
      Option.map_some, Option.some.injEq, sortMembers_str, sortMembers_ofText?, Json.str.injEq]
      at hlanguage hmodule hcdylib hpackage hpackages hrenames
    exact ⟨hlanguage, ofText?_injective hmodule, ofText?_injective hcdylib,
      ofText?_injective hpackage, sortMembers_mapJson_iff.1 hpackages,
      sortMembers_mapJson_iff.1 hrenames⟩
  · intro h
    have hpackages := sortMembers_mapJson_iff.2 h.externalPackages
    have hrenames := sortMembers_mapJson_iff.2 h.renames
    simp [sortedMembers, sortValues_eq, membersJson, h.language, h.moduleName, h.cdylibName,
      h.packageName, hpackages, hrenames]

theorem legible_mapJson {floats : Decimal.Binary64 → Prop} (t : Table String String) :
    Legible floats (mapJson t) := by
  refine .obj (by simpa [Function.comp_def] using t.nodup) fun m hm => ?_
  obtain ⟨entry, -, rfl⟩ := List.mem_map.1 hm
  exact .str _

/-- A section holds texts only, so it is legible. -/
theorem legible_toJson {floats : Decimal.Binary64 → Prop} (s : Section) :
    Legible floats s.toJson :=
  .obj s.nodup_keys_membersJson (by simp [Legible.str, legible_ofText?, legible_mapJson])

end Section
end Bindery
