import Bindery.Proofs.Group.Members
import Bindery.Proofs.Group.Visits
/-!
# Grouping is a partition

When the items of an artifact can be grouped, and where they are then. Every item but a namespace
item is resolved against the declared names and comes into the group of its library, and nothing
else does.
-/
namespace Bindery.GroupMap

open Outcome Resolution

/-- The public names that the items declare. -/
def declaredNames (items : List Item) : Table String String :=
  .ofList ((items.filterMap declaration?).map fun n => (n.library, n.name))

/-- An item resolved against the names that all items declare. -/
def conversion (items : List Item) (item : Item) : Except Resolution.Fault Item :=
  resolve (declaredNames items) (freeOf items) item

/-- What grouping asks of the items: no library has two names, the library of every member is
declared, every member can be resolved, and no two members are resolved to the same item. -/
structure Groupable (items : List Item) : Prop where
  consistent : Consistent (items.filterMap declaration?)
  declared : ∀ item ∈ members items, ∃ n ∈ items.filterMap declaration?, n.library = item.library
  converts : ∀ item ∈ members items, ∃ resolved, conversion items item = .ok resolved
  distinct : ((members items).map (conversion items)).Nodup

/-- How the groups hold the items. The libraries are the declared ones with their declared names,
every member is resolved in the group of its library and in no other one, whatever a group holds
was made from a member of its library, and over all groups every resolved member is there once. -/
structure Partition (items : List Item) (groups : GroupMap) : Prop where
  libraries : ∀ library space, (∃ g, groups.get? library = some g ∧ g.space = space) ↔
    space ∈ items.filterMap declaration? ∧ space.library = library
  placed : ∀ item ∈ members items, ∃ resolved, conversion items item = .ok resolved ∧
    ∀ library, (∃ g, groups.get? library = some g ∧ resolved ∈ g.items) ↔ library = item.library
  source : ∀ library g, groups.get? library = some g → ∀ resolved ∈ g.items,
    ∃ item ∈ members items, item.library = library ∧ conversion items item = .ok resolved
  once : ((groups.values.flatMap Group.items).map Except.ok).Perm
    ((members items).map (conversion items))

variable {items : List Item} {base groups : GroupMap} {staged : List Placement}

theorem Declares.get?_names {spaces : List Namespace} (h : Declares spaces base)
    (library name : String) :
    (names base).get? library = some name ↔ (⟨library, name⟩ : Namespace) ∈ spaces := by
  simp only [names, Table.get?_map, Option.map_eq_some_iff, h library]
  constructor
  · rintro ⟨_, ⟨n, hn, rfl, rfl⟩, rfl⟩
    exact hn
  · intro hn
    exact ⟨_, ⟨_, hn, rfl, rfl⟩, rfl⟩

/-- The declared name of a library is the one in its namespace. -/
theorem get?_declaredNames (h : Consistent (items.filterMap declaration?)) (library name : String) :
    (declaredNames items).get? library = some name ↔
      (⟨library, name⟩ : Namespace) ∈ items.filterMap declaration? := by
  constructor
  · intro hget
    obtain ⟨n, hn, heq⟩ := List.mem_map.1 (Table.mem_of_get?_ofList hget)
    obtain ⟨rfl, rfl⟩ := Prod.mk.inj heq
    exact hn
  · intro hn
    have hmem := List.mem_map_of_mem (f := fun n : Namespace => (n.library, n.name)) hn
    obtain ⟨last, hlast⟩ := Table.exists_get?_ofList hmem
    obtain ⟨n', hn', heq⟩ := List.mem_map.1 (Table.mem_of_get?_ofList hlast)
    obtain ⟨hlibrary, rfl⟩ := Prod.mk.inj heq
    rw [h n' hn' _ hn hlibrary] at hlast
    exact hlast

/-- Resolution in the groups of the declared libraries is the conversion of the items. -/
theorem Declares.conversion_eq (h : Declares (items.filterMap declaration?) base) :
    resolve base.names (freeOf items) = conversion items := by
  refine resolve_congr (fun library => Option.ext fun name => ?_) fun _ => Iff.rfl
  rw [h.get?_names, get?_declaredNames h.consistent]

/-- Where an item is placed if it can be. -/
def placementOf (items : List Item) (item : Item) : Placement :=
  ⟨item.library, (conversion items item).toOption.getD item⟩

/-- Groupable items make groups. Every member has a placement, and two placements differ as the
items do. -/
theorem Groupable.exists_ofItems (h : Groupable items) : ∃ groups, ofItems items = .ok groups := by
  obtain ⟨base, hbase⟩ := exists_of_consistent _ h.consistent
  have hdeclares := declares_of_foldlM _ hbase
  have hplaceable : ∀ item ∈ members items,
      Placeable base (freeOf items) item (placementOf items item) := by
    intro item hitem
    obtain ⟨resolved, hresolved⟩ := h.converts item hitem
    obtain ⟨n, hn, hlibrary⟩ := h.declared item hitem
    refine ⟨rfl, ?_, Group.empty n, (hdeclares ..).2 ⟨n, hn, hlibrary, rfl⟩, List.not_mem_nil⟩
    rw [hdeclares.conversion_eq]
    simp [placementOf, hresolved]
  have hall : List.Forall₂ (Placeable base (freeOf items)) (members items)
      ((members items).map (placementOf items)) := by
    rw [List.forall₂_map_right_iff, List.forall₂_same]
    exact hplaceable
  have hitems : (members items).map (conversion items) =
      ((members items).map (placementOf items)).map fun p => .ok p.item := by
    rw [List.map_map]
    refine List.map_congr_left fun item hitem => ?_
    rw [← hdeclares.conversion_eq]
    exact (hplaceable item hitem).resolved
  have hnodup : ((members items).map (placementOf items)).Nodup :=
    List.Nodup.of_map _ (hitems ▸ h.distinct)
  obtain ⟨groups, hgroups, -⟩ := GroupMap.exists_ofItems hbase hall hnodup
  exact ⟨groups, hgroups⟩

/-- An item is converted to what its placement holds. -/
theorem Grouped.conversion_eq (h : Grouped items base staged groups) {item : Item} {p : Placement}
    (hp : Placeable base (freeOf items) item p) : conversion items item = .ok p.item := by
  rw [← h.declares.conversion_eq]
  exact hp.resolved

theorem Placeable.library_item {free : List Ident} {item : Item} {p : Placement}
    (h : Placeable base free item p) : p.item.library = p.library :=
  (library_of_resolve h.resolved).trans h.library.symm

theorem Grouped.map_conversion (h : Grouped items base staged groups) :
    (members items).map (conversion items) = (staged.map Placement.item).map .ok := by
  rw [List.map_map, ← List.forall₂_eq_eq_eq, List.forall₂_map_left_iff,
    List.forall₂_map_right_iff]
  exact h.placeable.imp fun _ _ => h.conversion_eq

/-- No item is placed twice. -/
theorem Grouped.nodup_items (h : Grouped items base staged groups) :
    (staged.map Placement.item).Nodup := by
  refine h.nodup.map_on fun p hp q hq heq => ?_
  obtain ⟨_, -, hp⟩ := exists_left h.placeable hp
  obtain ⟨_, -, hq⟩ := exists_left h.placeable hq
  have hlibrary : p.library = q.library := by rw [← hp.library_item, ← hq.library_item, heq]
  obtain ⟨_, _⟩ := p
  obtain ⟨_, _⟩ := q
  simp_all

/-- A group holds items of its own library only. -/
theorem Grouped.library_of_mem (h : Grouped items base staged groups) {library : String} {g : Group}
    (hg : groups.get? library = some g) {resolved : Item} (hmem : resolved ∈ g.items) :
    resolved.library = library := by
  obtain ⟨_, -, -, hplaceable⟩ := h.exists_source hg hmem
  exact hplaceable.library_item

/-- Over all groups the placed items are there, each once. -/
theorem Grouped.perm_items (h : Grouped items base staged groups) :
    (groups.values.flatMap Group.items).Perm (staged.map Placement.item) := by
  have hget : ∀ entry ∈ groups.entries, groups.get? entry.1 = some entry.2 :=
    fun entry hentry => (groups.get?_eq_some_iff ..).2 hentry
  have hdisjoint : groups.values.Pairwise (Function.onFun List.Disjoint Group.items) := by
    refine List.pairwise_map.2 ((List.pairwise_map.1 groups.nodup).imp_of_mem ?_)
    intro entry entry' hentry hentry' hne resolved hmem hmem'
    exact hne ((h.library_of_mem (hget _ hentry) hmem).symm.trans
      (h.library_of_mem (hget _ hentry') hmem'))
  have hnodup : (groups.values.flatMap Group.items).Nodup :=
    List.nodup_flatMap.2 ⟨fun g _ => g.nodup, hdisjoint⟩
  refine (List.perm_ext_iff_of_nodup hnodup h.nodup_items).2 fun resolved => ?_
  constructor
  · intro hmem
    obtain ⟨g, hg, hmem⟩ := List.mem_flatMap.1 hmem
    obtain ⟨entry, hentry, rfl⟩ := List.mem_map.1 hg
    obtain ⟨-, -, -, hitems⟩ := h.of_get? (hget entry hentry)
    exact List.mem_map.2 ⟨_, mem_placedIn.1 (hitems ▸ hmem), rfl⟩
  · intro hmem
    obtain ⟨p, hp, rfl⟩ := List.mem_map.1 hmem
    obtain ⟨_, -, hplaceable⟩ := exists_left h.placeable hp
    obtain ⟨known, hknown, -⟩ := hplaceable.room
    obtain ⟨g, hg⟩ := h.exists_get? hknown
    obtain ⟨-, -, -, hitems⟩ := h.of_get? hg
    exact List.mem_flatMap.2 ⟨g, List.mem_map.2 ⟨_, (groups.get?_eq_some_iff ..).1 hg, rfl⟩,
      hitems ▸ mem_placedIn.2 hp⟩

/-- Items that make groups are groupable. -/
theorem Grouped.groupable (h : Grouped items base staged groups) : Groupable items where
  consistent := h.declares.consistent
  declared := by
    intro item hitem
    obtain ⟨p, -, hplaceable⟩ := exists_right h.placeable hitem
    obtain ⟨g, hg, -⟩ := hplaceable.room
    obtain ⟨n, hn, hlibrary, -⟩ := (h.declares _ g).1 hg
    exact ⟨n, hn, hlibrary.trans hplaceable.library⟩
  converts := by
    intro item hitem
    obtain ⟨p, -, hplaceable⟩ := exists_right h.placeable hitem
    exact ⟨p.item, h.conversion_eq hplaceable⟩
  distinct := by
    rw [h.map_conversion]
    exact h.nodup_items.map fun _ _ => Except.ok.inj

/-- Groups are a partition of the converted items. -/
theorem Grouped.partition (h : Grouped items base staged groups) : Partition items groups where
  libraries := by
    intro library space
    constructor
    · rintro ⟨g, hg, rfl⟩
      obtain ⟨hbase, -⟩ := h.of_get? hg
      obtain ⟨n, hn, hlibrary, heq⟩ := (h.declares ..).1 hbase
      obtain rfl : g.space = n := congrArg Group.space heq
      exact ⟨hn, hlibrary⟩
    · rintro ⟨hspace, rfl⟩
      have hbase := (h.declares space.library _).2 ⟨space, hspace, rfl, rfl⟩
      obtain ⟨g, hg⟩ := h.exists_get? hbase
      obtain ⟨hbase', -⟩ := h.of_get? hg
      exact ⟨g, hg, congrArg Group.space (Option.some.inj (hbase'.symm.trans hbase))⟩
  placed := by
    intro item hitem
    obtain ⟨g, resolved, hg, hmem, hplaceable⟩ := h.exists_placed hitem
    refine ⟨resolved, h.conversion_eq hplaceable, fun library => ⟨?_, ?_⟩⟩
    · rintro ⟨g', hg', hmem'⟩
      exact (h.library_of_mem hg' hmem').symm.trans hplaceable.library_item
    · rintro rfl
      exact ⟨g, hg, hmem⟩
  source := by
    intro library g hg resolved hmem
    obtain ⟨item, hitem, hlibrary, hplaceable⟩ := h.exists_source hg hmem
    exact ⟨item, hitem, hlibrary, h.conversion_eq hplaceable⟩
  once := by
    rw [h.map_conversion]
    exact h.perm_items.map _

/-- Items can be grouped exactly when they are groupable, and their groups are a partition of
them. -/
theorem ofItems_partitions (items : List Item) :
    ((∃ groups, ofItems items = .ok groups) ↔ Groupable items) ∧
      ∀ groups, ofItems items = .ok groups → Partition items groups := by
  refine ⟨⟨?_, Groupable.exists_ofItems⟩, fun groups hgroups => ?_⟩
  · rintro ⟨groups, hgroups⟩
    obtain ⟨_, _, h⟩ := Grouped.of_ofItems hgroups
    exact h.groupable
  · obtain ⟨_, _, h⟩ := Grouped.of_ofItems hgroups
    exact h.partition

/-- Two functions that differ in how they refer to a record of `b` are one after resolution. -/
example :
    let of (ty : Ty) : Item := .function { modulePath := "a", name := "f", inputs := [⟨"x", ty⟩] }
    let reference : Ty := .external ⟨"two", "b", "R", .dataClass, false, true⟩
    (ofItems [.space ⟨"a", "one"⟩, .space ⟨"b", "two"⟩, of (.record "b" "R"), of reference]).map
      GroupMap.sorted = .error (.duplicate "a" (of reference)) :=
  rfl

end Bindery.GroupMap
