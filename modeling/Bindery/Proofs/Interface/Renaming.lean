import Bindery.Proofs.Interface.Remembered
import Bindery.Proofs.Reachability.Renaming
import Mathlib.Data.Set.Function
/-!
# Other names for types

An interface in which every type goes by another name. If the new names tell its types apart, the
tables keep their entries in order, an owner keeps its members, and the questions about handles have
the same answers.
-/
namespace Bindery

def Slot.rename (ρ : String → String) : Slot → Slot
  | declaration kind name => declaration kind (ρ name)
  | function name => function name
  | constructor owner name => constructor (ρ owner) name
  | method owner name => method (ρ owner) name
  | traitMethod owner name => traitMethod (ρ owner) name

theorem Item.slot?_rename {ρ : String → String} (item : Item) :
    (item.rename ρ).slot? = item.slot?.map (Slot.rename ρ) := by
  cases item <;> rfl

/-- The type that a slot declares, or that the member in it belongs to. -/
def Slot.typeName? : Slot → Option String
  | declaration _ name => some name
  | constructor owner _ | method owner _ | traitMethod owner _ => some owner
  | function _ => none

def Item.typeNames (item : Item) : List String :=
  (item.slot?.bind Slot.typeName?).toList ++ item.occurrences.filterMap Ty.typeName?

namespace Interface

/-- The names of types that occur in an interface. -/
def typeNames (i : Interface) : List String := i.items.flatMap Item.typeNames

variable {i : Interface} {item : Item} {slot : Slot} {name : String}

/-- The name of every type in an item is a type name of the interface. -/
theorem mem_typeNames_of_mem_occurrences (hitem : item ∈ i.items) {ty : Ty}
    (hty : ty ∈ item.occurrences) (hname : ty.typeName? = some name) : name ∈ i.typeNames :=
  List.mem_flatMap.2
    ⟨item, hitem, List.mem_append_right _ (List.mem_filterMap.2 ⟨ty, hty, hname⟩)⟩

theorem mem_typeNames_of_slot? (hitem : item ∈ i.items) (hslot : item.slot? = some slot)
    (hname : slot.typeName? = some name) : name ∈ i.typeNames :=
  List.mem_flatMap.2 ⟨item, hitem, List.mem_append_left _ (by simp [hslot, hname])⟩

/-- The name of every slot that is taken is a type name of the interface. -/
theorem WellFormed.mem_typeNames (hi : i.WellFormed) (hat : i.at? slot = some item)
    (hname : slot.typeName? = some name) : name ∈ i.typeNames :=
  mem_typeNames_of_slot? ((Interface.mem_items_iff i item).2 ⟨slot, hat⟩)
    (hi.keyed slot item hat) hname

theorem WellFormed.mem_typeNames_of_declared (hi : i.WellFormed) {kind : DeclKind}
    (h : name ∈ i.declared kind) : name ∈ i.typeNames := by
  obtain ⟨item, hat⟩ := mem_declared_iff.1 h
  exact hi.mem_typeNames hat rfl

/-- Change every name of a type, of declarations, of owners and wherever a type stands. Nothing is
remembered. -/
def renameTypes (ρ : String → String) (i : Interface) : Interface where
  library := i.library
  space := i.space
  docstring := i.docstring
  functions := i.functions.map (Function.rename ρ)
  records := i.records.rekey ρ (Record.rename ρ)
  enumerations := i.enumerations.rekey ρ (Enumeration.rename ρ)
  objects := i.objects.rekey ρ (Object.rename ρ)
  callbacks := i.callbacks.rekey ρ (CallbackInterface.rename ρ)
  customs := i.customs.rekey ρ (CustomType.rename ρ)
  constructors := i.constructors.rekey (Prod.map ρ id) (Constructor.rename ρ)
  methods := i.methods.rekey (Prod.map ρ id) (Method.rename ρ)
  traitMethods := i.traitMethods.rekey (Prod.map ρ id) (TraitMethod.rename ρ)
  kinds := i.kinds.rekey ρ id

variable {ρ : String → String}

/-- The new names tell the types of an interface apart. -/
abbrev TellsApart (ρ : String → String) (i : Interface) : Prop :=
  Set.InjOn ρ {name | name ∈ i.typeNames}

/-- A renaming that tells type names apart tells declarations apart. -/
theorem TellsApart.declared (hρ : TellsApart ρ i) (hi : i.WellFormed) (kind : DeclKind) :
    Set.InjOn ρ {name | name ∈ i.declared kind} :=
  hρ.mono fun _ => hi.mem_typeNames_of_declared

theorem TellsApart.members {α : Type} (hρ : TellsApart ρ i) {members : Table (String × String) α}
    (howner : ∀ key ∈ members.keys, key.1 ∈ i.typeNames) :
    Set.InjOn (Prod.map ρ id) {key | key ∈ members.keys} := by
  intro key hkey key' hkey' heq
  obtain ⟨howners, hnames⟩ := Prod.mk.inj heq
  exact Prod.ext (hρ (howner key hkey) (howner key' hkey') howners) hnames

/-- The owners of members in slots are names of types. -/
theorem WellFormed.owner_mem_typeNames {α : Type} (hi : i.WellFormed)
    {members : Table (String × String) α} (slotOf : String → String → Slot) (itemOf : α → Item)
    (hat : ∀ owner name, i.at? (slotOf owner name) = (members.get? (owner, name)).map itemOf)
    (hname : ∀ owner name, (slotOf owner name).typeName? = some owner) :
    ∀ key ∈ members.keys, key.1 ∈ i.typeNames := by
  rintro ⟨owner, name⟩ hkey
  obtain ⟨member, hget⟩ := (members.mem_keys_iff _).1 hkey
  exact hi.mem_typeNames ((hat owner name).trans (congrArg _ hget)) (hname owner name)

theorem WellFormed.constructor_owner (hi : i.WellFormed) :
    ∀ key ∈ i.constructors.keys, key.1 ∈ i.typeNames :=
  hi.owner_mem_typeNames .constructor .constructor (fun _ _ => rfl) fun _ _ => rfl

theorem WellFormed.method_owner (hi : i.WellFormed) :
    ∀ key ∈ i.methods.keys, key.1 ∈ i.typeNames :=
  hi.owner_mem_typeNames .method .method (fun _ _ => rfl) fun _ _ => rfl

theorem WellFormed.traitMethod_owner (hi : i.WellFormed) :
    ∀ key ∈ i.traitMethods.keys, key.1 ∈ i.typeNames :=
  hi.owner_mem_typeNames .traitMethod .traitMethod (fun _ _ => rfl) fun _ _ => rfl

/-- The definitions in the tables, in order, are the former ones by other names. -/
structure TablesRenamed (ρ : String → String) (i j : Interface) : Prop where
  functions : j.functions.values = i.functions.values.map (Function.rename ρ)
  records : j.records.values = i.records.values.map (Record.rename ρ)
  enumerations : j.enumerations.values = i.enumerations.values.map (Enumeration.rename ρ)
  objects : j.objects.values = i.objects.values.map (Object.rename ρ)
  callbacks : j.callbacks.values = i.callbacks.values.map (CallbackInterface.rename ρ)
  customs : j.customs.values = i.customs.values.map (CustomType.rename ρ)
  constructors : j.constructors.values = i.constructors.values.map (Constructor.rename ρ)
  methods : j.methods.values = i.methods.values.map (Method.rename ρ)
  traitMethods : j.traitMethods.values = i.traitMethods.values.map (TraitMethod.rename ρ)

/-- The tables of a renamed interface are those of the interface, renamed. -/
theorem tablesRenamed (hi : i.WellFormed) (hρ : TellsApart ρ i) :
    TablesRenamed ρ i (i.renameTypes ρ) where
  functions := by simp [renameTypes, Table.values, Table.map]
  records := Table.values_rekey (hρ.declared hi .record)
  enumerations := Table.values_rekey (hρ.declared hi .enumeration)
  objects := Table.values_rekey (hρ.declared hi .object)
  callbacks := Table.values_rekey (hρ.declared hi .callback)
  customs := Table.values_rekey (hρ.declared hi .custom)
  constructors := Table.values_rekey (hρ.members hi.constructor_owner)
  methods := Table.values_rekey (hρ.members hi.method_owner)
  traitMethods := Table.values_rekey (hρ.members hi.traitMethod_owner)

/-- The items of a renamed interface are its items, renamed. -/
theorem items_renameTypes (hi : i.WellFormed) (hρ : TellsApart ρ i) :
    (i.renameTypes ρ).items = i.items.map (Item.rename ρ) := by
  have h := tablesRenamed hi hρ
  simp only [items, h.functions, h.records, h.enumerations, h.objects, h.callbacks, h.customs,
    h.constructors, h.methods, h.traitMethods, List.map_append, List.map_map]
  rfl

/-- One table: what is found under a new key was found under a former one. -/
theorem exists_of_get?_rekey {κ α : Type} [DecidableEq κ] {table : Table κ α} {key : κ → κ}
    {f : α → α} (slotOf : κ → Slot) (itemOf : α → Item)
    (hat : ∀ k, i.at? (slotOf k) = (table.get? k).map itemOf)
    (hslot : ∀ k, (slotOf k).rename ρ = slotOf (key k))
    (hitem : ∀ value, (itemOf value).rename ρ = itemOf (f value))
    (hkey : Set.InjOn key {k | k ∈ table.keys}) {newKey : κ}
    (h : ((table.rekey key f).get? newKey).map itemOf = some item) :
    ∃ former known, i.at? former = some known ∧ former.rename ρ = slotOf newKey ∧
      known.rename ρ = item := by
  obtain ⟨_, hget, rfl⟩ := Option.map_eq_some_iff.1 h
  obtain ⟨k, value, hvalue, rfl, rfl⟩ := (Table.get?_rekey_eq_some_iff hkey).1 hget
  exact ⟨slotOf k, itemOf value, by rw [hat, hvalue]; rfl, hslot k, hitem value⟩

/-- Every slot of a renamed interface is a slot by a new name. -/
theorem exists_of_at?_renameTypes (hi : i.WellFormed) (hρ : TellsApart ρ i)
    (h : (i.renameTypes ρ).at? slot = some item) :
    ∃ former known, i.at? former = some known ∧ former.rename ρ = slot ∧
      known.rename ρ = item := by
  cases slot with
  | declaration kind name =>
    have hdeclared := hρ.declared hi kind
    cases kind with
    | record =>
      exact exists_of_get?_rekey (.declaration .record) .record (fun _ => rfl) (fun _ => rfl)
        (fun _ => rfl) hdeclared h
    | enumeration =>
      exact exists_of_get?_rekey (.declaration .enumeration) .enumeration (fun _ => rfl)
        (fun _ => rfl) (fun _ => rfl) hdeclared h
    | object =>
      exact exists_of_get?_rekey (.declaration .object) .object (fun _ => rfl) (fun _ => rfl)
        (fun _ => rfl) hdeclared h
    | callback =>
      exact exists_of_get?_rekey (.declaration .callback) .callback (fun _ => rfl) (fun _ => rfl)
        (fun _ => rfl) hdeclared h
    | custom =>
      exact exists_of_get?_rekey (.declaration .custom) .custom (fun _ => rfl) (fun _ => rfl)
        (fun _ => rfl) hdeclared h
  | function name =>
    obtain ⟨_, hget, rfl⟩ := Option.map_eq_some_iff.1 h
    obtain ⟨f, hf, rfl⟩ := Option.map_eq_some_iff.1 ((Table.get?_map _ _ _).symm.trans hget)
    exact ⟨.function name, .function f, congrArg (Option.map _) hf, rfl, rfl⟩
  | constructor owner name =>
    exact exists_of_get?_rekey (fun key => .constructor key.1 key.2) .constructor (fun _ => rfl)
      (fun _ => rfl) (fun _ => rfl) (hρ.members hi.constructor_owner) h
  | method owner name =>
    exact exists_of_get?_rekey (fun key => .method key.1 key.2) .method (fun _ => rfl)
      (fun _ => rfl) (fun _ => rfl) (hρ.members hi.method_owner) h
  | traitMethod owner name =>
    exact exists_of_get?_rekey (fun key => .traitMethod key.1 key.2) .traitMethod (fun _ => rfl)
      (fun _ => rfl) (fun _ => rfl) (hρ.members hi.traitMethod_owner) h

theorem keyed_renameTypes (hi : i.WellFormed) (hρ : TellsApart ρ i)
    (h : (i.renameTypes ρ).at? slot = some item) : item.slot? = some slot := by
  obtain ⟨former, known, hat, rfl, rfl⟩ := exists_of_at?_renameTypes hi hρ h
  rw [Item.slot?_rename, hi.keyed former known hat, Option.map_some]

theorem at?_renameTypes (hi : i.WellFormed) (hρ : TellsApart ρ i)
    (h : i.at? slot = some item) :
    (i.renameTypes ρ).at? (slot.rename ρ) = some (item.rename ρ) := by
  have hmem : item.rename ρ ∈ (i.renameTypes ρ).items := by
    rw [items_renameTypes hi hρ]
    exact List.mem_map_of_mem ((Interface.mem_items_iff i item).2 ⟨slot, h⟩)
  obtain ⟨new, hnew⟩ := (Interface.mem_items_iff _ _).1 hmem
  have hslot := keyed_renameTypes hi hρ hnew
  rw [Item.slot?_rename, hi.keyed slot item h, Option.map_some, Option.some.injEq] at hslot
  rw [hslot, hnew]

/-- The interface by the new names is well formed: its definitions stand under the new names. -/
theorem wellFormed_renameTypes (hi : i.WellFormed) (hρ : TellsApart ρ i) :
    (i.renameTypes ρ).WellFormed where
  keyed _ _ := keyed_renameTypes hi hρ
  oneKind := by
    intro name kind
    have hkinds : ∀ name ∈ i.kinds.keys, name ∈ i.typeNames := by
      intro name hname
      obtain ⟨kind, hkind⟩ := (Table.mem_keys_iff _ _).1 hname
      obtain ⟨item, hat⟩ := Option.ne_none_iff_exists'.1 ((hi.oneKind name kind).1 hkind)
      exact hi.mem_typeNames hat rfl
    have hkey : Set.InjOn ρ {name | name ∈ i.kinds.keys} := hρ.mono hkinds
    rw [Option.ne_none_iff_exists']
    constructor
    · intro hget
      obtain ⟨former, _, hformer, rfl, rfl⟩ := (Table.get?_rekey_eq_some_iff hkey).1 hget
      obtain ⟨item, hat⟩ := Option.ne_none_iff_exists'.1 ((hi.oneKind former _).1 hformer)
      exact ⟨item.rename ρ, at?_renameTypes hi hρ hat⟩
    · rintro ⟨_, hat⟩
      obtain ⟨former, item, hformer, hslot, -⟩ := exists_of_at?_renameTypes hi hρ hat
      cases former with
      | declaration kind former =>
        obtain ⟨rfl, rfl⟩ := Slot.declaration.inj hslot
        have hkind := (hi.oneKind former kind).2 (by simp [hformer])
        exact (Table.get?_rekey_eq_some_iff hkey).2 ⟨former, _, hkind, rfl, rfl⟩
      | _ => cases hslot
  owned := by
    intro slot item hat owner kinds howner
    obtain ⟨former, known, hformer, rfl, -⟩ := exists_of_at?_renameTypes hi hρ hat
    obtain ⟨name, hname, rfl⟩ : ∃ name, former.owner? = some (name, kinds) ∧ ρ name = owner := by
      cases former with
      | declaration | function => cases howner
      | constructor name _ | method name _ | traitMethod name _ =>
        obtain ⟨rfl, rfl⟩ := Prod.mk.inj (Option.some.inj howner)
        exact ⟨name, rfl, rfl⟩
    obtain ⟨kind, hkind, hdeclared⟩ := hi.owned former known hformer name kinds hname
    obtain ⟨declaration, hdeclaration⟩ := mem_declared_iff.1 hdeclared
    exact ⟨kind, hkind, mem_declared_iff.2 ⟨_, at?_renameTypes hi hρ hdeclaration⟩⟩

section Members

variable {α : Type} {members : Table (String × String) α} {f : α → α} {owner : String}

theorem ownedBy_rekey (hρ : TellsApart ρ i)
    (hkeys : ∀ key ∈ members.keys, key.1 ∈ i.typeNames) (howner : owner ∈ i.typeNames) :
    ownedBy (ρ owner) (members.rekey (Prod.map ρ id) f) =
      (ownedBy owner members).map (Prod.map (Prod.map ρ id) f) := by
  have hentries := Table.entries_rekey (f := f) (hρ.members hkeys)
  rw [ownedBy, ownedBy, hentries, List.filter_map]
  refine congrArg _ (List.filter_congr fun entry hentry => ?_)
  have hkey := hkeys entry.1 (List.mem_map_of_mem hentry)
  have hiff : ρ entry.1.1 = ρ owner ↔ entry.1.1 = owner :=
    ⟨fun h => hρ hkey howner h, congrArg ρ⟩
  simp [hiff]

/-- Among the members of one owner the names alone decide the order. -/
theorem sortBy_ownedBy_rekey (hρ : TellsApart ρ i)
    (hkeys : ∀ key ∈ members.keys, key.1 ∈ i.typeNames) (howner : owner ∈ i.typeNames) :
    (Order.sortBy (Order.on Prod.fst Order.comparePair)
        (ownedBy (ρ owner) (members.rekey (Prod.map ρ id) f))).map Prod.snd =
      ((Order.sortBy (Order.on Prod.fst Order.comparePair) (ownedBy owner members)).map
        Prod.snd).map f := by
  rw [ownedBy_rekey hρ hkeys howner, Order.sortBy_map_of_mem, List.map_map, List.map_map]
  · rfl
  · intro a ha b hb
    obtain rfl : a.1.1 = owner := of_decide_eq_true (List.mem_filter.1 ha).2
    have hb : b.1.1 = a.1.1 := of_decide_eq_true (List.mem_filter.1 hb).2
    simp [Order.on, Order.comparePair, Order.both, Order.compareText, hb]

end Members

/-- A renamed object has the constructors of the object, renamed. -/
theorem constructorsOf_renameTypes (hi : i.WellFormed) (hρ : TellsApart ρ i) {owner : String}
    (howner : owner ∈ i.typeNames) :
    (i.renameTypes ρ).constructorsOf (ρ owner) =
      (i.constructorsOf owner).map (Constructor.rename ρ) :=
  sortBy_ownedBy_rekey hρ hi.constructor_owner howner

theorem methodsOf_renameTypes (hi : i.WellFormed) (hρ : TellsApart ρ i) {owner : String}
    (howner : owner ∈ i.typeNames) :
    (i.renameTypes ρ).methodsOf (ρ owner) = (i.methodsOf owner).map (Method.rename ρ) :=
  sortBy_ownedBy_rekey hρ hi.method_owner howner

theorem traitMethodsOf_renameTypes (hi : i.WellFormed) (hρ : TellsApart ρ i) {owner : String}
    (howner : owner ∈ i.typeNames) :
    (i.renameTypes ρ).traitMethodsOf (ρ owner) =
      (i.traitMethodsOf owner).map (TraitMethod.rename ρ) := by
  have howned : (ownedBy (ρ owner) (i.renameTypes ρ).traitMethods).map Prod.snd =
      ((ownedBy owner i.traitMethods).map Prod.snd).map (TraitMethod.rename ρ) := by
    rw [renameTypes, ownedBy_rekey hρ hi.traitMethod_owner howner, List.map_map, List.map_map]
    rfl
  rw [traitMethodsOf, howned]
  exact Order.sortBy_map (fun _ _ => rfl) _

open Reachability

theorem name_mem_typeNames_of_ident? (hitem : item ∈ i.items) {id : Ident}
    (hid : item.ident? = some id) : id.name ∈ i.typeNames := by
  obtain ⟨kind, hslot⟩ := slot?_of_ident? hid
  exact mem_typeNames_of_slot? hitem hslot rfl

theorem name_mem_typeNames_of_link (hitem : item ∈ i.items) {id : Ident} {stamp : Option Bool}
    (hlink : .target id stamp ∈ item.links) : id.name ∈ i.typeNames := by
  obtain ⟨ty, hty, hlink⟩ := List.mem_filterMap.1 hlink
  have hoccurs : ty ∈ item.occurrences := by
    cases item with
    | record r | enumeration e => exact hty
    | _ => cases hty
  have hname : ty.typeName? = some id.name := by
    cases ty <;> cases hlink <;> rfl
  exact mem_typeNames_of_mem_occurrences hitem hoccurs hname

/-- A new identifier comes from one former identifier only. -/
theorem TellsApart.ident?_eq (hρ : TellsApart ρ i) (hitem : item ∈ i.items) {id : Ident}
    (hid : id.name ∈ i.typeNames) (h : (item.rename ρ).ident? = some (id.rename ρ)) :
    item.ident? = some id := by
  rw [Item.ident?_rename] at h
  obtain ⟨known, hknown, heq⟩ := Option.map_eq_some_iff.1 h
  obtain ⟨hpath, hname⟩ := Ident.mk.inj heq
  have hname := hρ (name_mem_typeNames_of_ident? hitem hknown) hid hname
  obtain ⟨path, name⟩ := id
  obtain rfl : known = ⟨path, name⟩ := congrArg₂ Ident.mk hpath hname
  exact hknown

/-- Renamed interfaces list the renamed items, in whatever order. -/
theorem mem_sortedItems_renameTypes (hi : i.WellFormed) (hρ : TellsApart ρ i) :
    item ∈ (i.renameTypes ρ).sortedItems ↔ ∃ known ∈ i.items, known.rename ρ = item := by
  rw [sortedItems, Item.mem_sorted, items_renameTypes hi hρ, List.mem_map]

theorem relabels_renameTypes (hi : i.WellFormed) (hρ : TellsApart ρ i) :
    Relabels ρ i.typeNames (Universe.ofItems i.sortedItems)
      (Universe.ofItems (i.renameTypes ρ).sortedItems) where
  get? := by
    intro id hid
    have hsingle := (wellFormed_renameTypes hi hρ).single
    refine Option.ext fun links => ?_
    rw [Option.map_eq_some_iff]
    constructor
    · intro hget
      obtain ⟨renamed, hmem, hident, rfl⟩ := hsingle.exists_of_get? hget
      obtain ⟨item, hitem, rfl⟩ := (mem_sortedItems_renameTypes hi hρ).1 hmem
      have hidents := hρ.ident?_eq hitem hid hident
      have hknown := hi.single.get?_eq_some (Item.mem_sorted.2 hitem) hidents
      exact ⟨item.links, hknown, (Item.links_rename item).symm⟩
    · rintro ⟨known, hget, rfl⟩
      obtain ⟨item, hmem, hident, rfl⟩ := hi.single.exists_of_get? hget
      have hitem := Item.mem_sorted.1 hmem
      have hrenamed := (mem_sortedItems_renameTypes hi hρ).2 ⟨item, hitem, rfl⟩
      have hidents : (item.rename ρ).ident? = some (id.rename ρ) := by
        rw [Item.ident?_rename, hident, Option.map_some]
      rw [← Item.links_rename]
      exact hsingle.get?_eq_some hrenamed hidents
  mem := by
    intro id links hget
    obtain ⟨item, hmem, hident, -⟩ := hi.single.exists_of_get? hget
    exact name_mem_typeNames_of_ident? (Item.mem_sorted.1 hmem) hident
  target := by
    intro id links hget target stamp htarget
    obtain ⟨item, hmem, -, rfl⟩ := hi.single.exists_of_get? hget
    exact name_mem_typeNames_of_link (Item.mem_sorted.1 hmem) htarget

/-- A renamed type is free of references exactly if the type is. -/
theorem mem_computeFree_renameTypes (hi : i.WellFormed) (hρ : TellsApart ρ i) {id : Ident}
    (hid : id.name ∈ i.typeNames) :
    id.rename ρ ∈ (i.renameTypes ρ).computeFree ↔ id ∈ i.computeFree := by
  have hrelabels := relabels_renameTypes hi hρ
  rw [computeFree, computeFree, Reachability.freeIdents, Reachability.freeIdents,
    mem_freeOf_iff, mem_freeOf_iff]
  exact ⟨hrelabels.of_free hid, hrelabels.free⟩

/-- An occurrence holds references under its new name exactly if it did under the old one. -/
theorem occurrenceHolds_rename {free free' : List Ident} {ty : Ty}
    (h : ∀ id : Ident, ty.typeName? = some id.name → (id.rename ρ ∈ free' ↔ id ∈ free)) :
    occurrenceHolds free' (ty.rename ρ) = occurrenceHolds free ty := by
  cases ty with
  | record path name | enumeration path name =>
    have hiff := h ⟨path, name⟩ rfl
    rw [Ident.rename] at hiff
    simp only [Ty.rename, occurrenceHolds, hiff]
  | _ => rfl

/-- A type of an interface has the same answer by its new name. -/
theorem holdsObjects_renameTypes (hi : i.WellFormed) (hfresh : i.UpToDate) (hρ : TellsApart ρ i)
    {ty : Ty} (hnames : ∀ t ∈ ty.occurrences, ∀ name ∈ t.typeName?, name ∈ i.typeNames) :
    (i.renameTypes ρ).holdsObjects (ty.rename ρ) = i.holdsObjects ty := by
  have hnone : (i.renameTypes ρ).free = none := rfl
  have hfree (id : Ident) (hid : id.name ∈ i.typeNames) :
      id.rename ρ ∈ (i.renameTypes ρ).freeIdents ↔ id ∈ i.freeIdents := by
    rw [hfresh.mem_free_iff, freeIdents, hnone, Option.getD_none]
    exact mem_computeFree_renameTypes hi hρ hid
  rw [holdsObjects, holdsObjects, Ty.occurrences_rename, List.any_map, Bool.eq_iff_iff,
    List.any_eq_true, List.any_eq_true]
  refine exists_congr fun t => and_congr_right fun ht => ?_
  rw [Function.comp_apply, occurrenceHolds_rename fun id hid => hfree id (hnames t ht _ hid)]

end Interface
end Bindery
