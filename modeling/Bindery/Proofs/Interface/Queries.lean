import Bindery.Interface.Queries
import Bindery.Proofs.Interface.Basic
import Bindery.Proofs.Reachability.Single
/-!
# What an interface answers

The items of an interface are the ones in its slots. An interface to which one group was added
answers for the items of the group.
-/
namespace Bindery.Interface

open Reachability

theorem mem_values_iff {κ α : Type} [DecidableEq κ] (table : Table κ α) (value : α) :
    value ∈ table.values ↔ ∃ key, table.get? key = some value := by
  simp [Table.values, Table.get?_eq_some_iff]

/-- The items of an interface are what stands in its slots. -/
theorem mem_items_iff (i : Interface) (item : Item) :
    item ∈ i.items ↔ ∃ slot, i.at? slot = some item := by
  simp only [items, List.mem_append, List.mem_map, mem_values_iff]
  constructor
  · rintro ((((((((⟨_, ⟨k, h⟩, rfl⟩ | ⟨_, ⟨k, h⟩, rfl⟩) | ⟨_, ⟨k, h⟩, rfl⟩) | ⟨_, ⟨k, h⟩, rfl⟩) |
      ⟨_, ⟨k, h⟩, rfl⟩) | ⟨_, ⟨k, h⟩, rfl⟩) | ⟨_, ⟨k, h⟩, rfl⟩) | ⟨_, ⟨k, h⟩, rfl⟩) |
      ⟨_, ⟨k, h⟩, rfl⟩)
    · exact ⟨.function k, by simp [at?, h]⟩
    · exact ⟨.declaration .record k, by simp [at?, h]⟩
    · exact ⟨.declaration .enumeration k, by simp [at?, h]⟩
    · exact ⟨.declaration .object k, by simp [at?, h]⟩
    · exact ⟨.declaration .callback k, by simp [at?, h]⟩
    · exact ⟨.declaration .custom k, by simp [at?, h]⟩
    · exact ⟨.constructor k.1 k.2, by simp [at?, h]⟩
    · exact ⟨.method k.1 k.2, by simp [at?, h]⟩
    · exact ⟨.traitMethod k.1 k.2, by simp [at?, h]⟩
  · rintro ⟨slot, hslot⟩
    cases slot with
    | declaration kind name =>
      cases kind <;> obtain ⟨value, hvalue, rfl⟩ := Option.map_eq_some_iff.1 hslot <;>
        simpa using ⟨_, hvalue⟩
    | _ =>
      obtain ⟨value, hvalue, rfl⟩ := Option.map_eq_some_iff.1 hslot
      simpa [-Prod.exists] using ⟨_, hvalue⟩

variable {library : String} {g : Group} {i : Interface}

theorem at?_empty (library : String) (slot : Slot) : (empty library).at? slot = none := by
  cases slot with
  | declaration kind name => cases kind <;> rfl
  | _ => rfl

/-- An interface of one group holds the items of the group that have a slot. -/
theorem mem_items_of_addGroup (h : (empty library).addGroup g = (i, .ok ())) (item : Item) :
    item ∈ i.items ↔ item ∈ g.items ∧ item.slot? ≠ none := by
  have hall := entersAll_of_addGroup h
  rw [mem_items_iff]
  constructor
  · rintro ⟨slot, hat⟩
    obtain hold | ⟨hmem, hslot⟩ := hall.source slot item hat
    · simp [at?_empty] at hold
    · exact ⟨hmem, by simp [hslot]⟩
  · rintro ⟨hmem, hslot⟩
    obtain ⟨slot, hslot⟩ := Option.ne_none_iff_exists'.1 hslot
    exact ⟨slot, hall.entered item hmem slot hslot⟩

/-- A group that is an interface on its own has one definition of each identifier. -/
theorem single_of_addGroup (h : (empty library).addGroup g = (i, .ok ())) : Single g.items := by
  intro a ha b hb id hida hidb
  exact (entersAll_of_addGroup h).eq_of_ident? (oneKind_empty library) ha hb hida hidb

/-- An interface of one group finds those identifiers free that are free among the items of the
group. -/
theorem mem_freeIdents_of_addGroup (h : (empty library).addGroup g = (i, .ok ())) (id : Ident) :
    id ∈ i.freeIdents ↔ Free (Universe.ofItems g.items) true [] id := by
  have hnone : i.free = none := (entersAll_of_addGroup h).free rfl
  have hsingle := single_of_addGroup h
  have hmem : ∀ item id, item.ident? = some id → (item ∈ i.sortedItems ↔ item ∈ g.items) := by
    intro item id hid
    obtain ⟨kind, hslot⟩ := slot?_of_ident? hid
    rw [sortedItems, Item.mem_sorted, mem_items_of_addGroup h, hslot]
    simp
  have hget : ∀ id, (Universe.ofItems i.sortedItems).get? id = (Universe.ofItems g.items).get? id :=
    hsingle.get?_congr hmem
  rw [freeIdents, hnone, Option.getD_none, computeFree, Reachability.freeIdents, mem_freeOf_iff]
  exact ⟨Free.congr hget, Free.congr fun id => (hget id).symm⟩

/-- What an interface answers for a record or an enumeration is what it finds for its identifier. -/
theorem holdsObjects_of_ident? {item : Item} {id : Ident} {ty : Ty} (hid : item.ident? = some id)
    (hty : itemTy? item = some ty) : i.holdsObjects ty = decide (id ∉ i.freeIdents) := by
  cases item with
  | record r | enumeration e =>
    obtain rfl := Option.some.inj hid
    obtain rfl := Option.some.inj hty
    simp [holdsObjects, recordTy, Ty.occurrences, occurrenceHolds,
      Item.modulePath, Item.name]
  | _ => cases hid

end Bindery.Interface
