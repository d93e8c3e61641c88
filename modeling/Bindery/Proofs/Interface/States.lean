import Bindery.Proofs.Interface.Queries
/-!
# The states of an interface

When an addition succeeds, and what holds in every state that additions lead to, whether they
succeed or fail: each definition stands under its own name, a name has one kind, and a member has
an owner. Later additions leave alone what is there.
-/
namespace Bindery

open Outcome

/-- The owner of a member, and the kinds under which it may be declared. -/
def Slot.owner? : Slot → Option (String × List DeclKind)
  | constructor owner _ | method owner _ => some (owner, [.object])
  | traitMethod owner _ => some (owner, [.object, .callback])
  | _ => none

namespace Interface

variable {i j k : Interface} {item : Item} {slot : Slot}

/-- The names in the table of a kind. -/
def declared (i : Interface) : DeclKind → List String
  | .record => i.records.keys
  | .enumeration => i.enumerations.keys
  | .object => i.objects.keys
  | .callback => i.callbacks.keys
  | .custom => i.customs.keys

/-- A name is declared if something stands in its slot. -/
theorem mem_declared_iff {kind : DeclKind} {name : String} :
    name ∈ i.declared kind ↔ ∃ item, i.at? (.declaration kind name) = some item := by
  cases kind <;> simp [declared, at?, Table.mem_keys_iff]

/-- There is room for an item: its slot is empty or holds the same item, the name that it declares
has no other kind, and its owner is declared. -/
@[mk_iff] structure Admits (i : Interface) (item : Item) : Prop where
  slot : ∀ slot, item.slot? = some slot → i.at? slot = none ∨ i.at? slot = some item
  kind : ∀ kind name, item.slot? = some (.declaration kind name) →
    i.kinds.get? name = none ∨ i.kinds.get? name = some kind
  owner : ∀ slot, item.slot? = some slot → ∀ owner kinds, slot.owner? = some (owner, kinds) →
    ∃ kind ∈ kinds, owner ∈ i.declared kind

/-- A value can enter a table exactly if its key is vacant or has this value. -/
theorem exists_enter_iff {κ α : Type} [DecidableEq κ] [DecidableEq α] {table : Table κ α} {key : κ}
    {value : α} {conflict : Fault} :
    (∃ table', enter table key value conflict = .ok table') ↔
      table.get? key = none ∨ table.get? key = some value := by
  unfold enter
  cases table.get? key with
  | none => simp
  | some known => by_cases h : known = value <;> simp [h]

/-- A declaration can enter exactly if its name is vacant or already is this declaration. -/
theorem exists_declare_iff {α : Type} [DecidableEq α] {table : Table String α} {kind : DeclKind}
    {name : String} {value : α} :
    (∃ table', i.declare table kind name value = .ok table') ↔
      (i.kinds.get? name = none ∨ i.kinds.get? name = some kind) ∧
        (table.get? name = none ∨ table.get? name = some value) := by
  unfold declare
  cases i.kinds.get? name with
  | none => simp [exists_enter_iff]
  | some known => by_cases h : known = kind <;> simp [h, exists_enter_iff]

theorem exists_bind_ok_iff {ε α β : Type} {x : Except ε α} {f : α → β} :
    (∃ b, (x >>= fun a => .ok (f a)) = .ok b) ↔ ∃ a, x = .ok a := by
  cases x <;> simp

/-- An addition succeeds exactly when there is room for the item. -/
theorem exists_addItem_iff : (∃ i', i.addItem item = .ok i') ↔ i.Admits item := by
  rw [admits_iff]
  cases item with
  | space n | legacy m => simp [addItem, Item.slot?, Slot.owner?]
  | record d | enumeration d | object d | callback d | custom d =>
    simp [addItem, exists_bind_ok_iff, exists_declare_iff, Item.slot?, Slot.owner?, at?, and_comm]
  | function f =>
    simp [addItem, exists_bind_ok_iff, exists_enter_iff, Item.slot?, Slot.owner?, at?]
  | constructor d | method d =>
    by_cases howner : d.owner ∈ i.objects.keys <;>
      simp [addItem, Table.contains, howner, exists_bind_ok_iff, exists_enter_iff, Item.slot?,
        Slot.owner?, at?, declared]
  | traitMethod d =>
    by_cases howner : d.owner ∈ i.objects.keys ∨ d.owner ∈ i.callbacks.keys <;>
      simp [addItem, Table.contains, howner, exists_bind_ok_iff, exists_enter_iff, Item.slot?,
        Slot.owner?, at?, declared]

/-- A state in which each definition stands in its own slot, each name has the kind under which it
is declared, and each member has a declared owner. -/
structure WellFormed (i : Interface) : Prop where
  keyed : ∀ slot item, i.at? slot = some item → item.slot? = some slot
  oneKind : i.OneKind
  owned : ∀ slot item, i.at? slot = some item → ∀ owner kinds, slot.owner? = some (owner, kinds) →
    ∃ kind ∈ kinds, owner ∈ i.declared kind

theorem wellFormed_empty (library : String) : (empty library).WellFormed where
  keyed := by simp [at?_empty]
  oneKind := oneKind_empty library
  owned := by simp [at?_empty]

/-- What later states of one interface have in common with an earlier one: its library and its
name, whatever was in a slot, the kinds that were recorded, and that they are well formed. -/
structure Grows (i j : Interface) : Prop where
  library : j.library = i.library
  space : ∀ name, i.space = some name → j.space = some name
  kept : ∀ slot item, i.at? slot = some item → j.at? slot = some item
  kinds : ∀ name kind, i.kinds.get? name = some kind → j.kinds.get? name = some kind
  wellFormed : i.WellFormed → j.WellFormed

theorem Grows.refl (i : Interface) : Grows i i where
  library := rfl
  space := fun _ h => h
  kept := fun _ _ h => h
  kinds := fun _ _ h => h
  wellFormed := id

theorem Grows.trans (h : Grows i j) (h' : Grows j k) : Grows i k where
  library := h'.library.trans h.library
  space := fun name hname => h'.space name (h.space name hname)
  kept := fun slot item hat => h'.kept slot item (h.kept slot item hat)
  kinds := fun name kind hkind => h'.kinds name kind (h.kinds name kind hkind)
  wellFormed := h'.wellFormed ∘ h.wellFormed

/-- A change of the public name and the docstring alone, of which the name is not lost. -/
theorem grows_of_tables (hspace : ∀ name, i.space = some name → j.space = some name)
    (h : { j with space := i.space, docstring := i.docstring } = i) : Grows i j := by
  have hat := at?_congr h
  have hlibrary := congrArg Interface.library h
  have hkinds : j.kinds = i.kinds := by simpa using congrArg Interface.kinds h
  have hdeclared : ∀ kind name, name ∈ j.declared kind ↔ name ∈ i.declared kind := by
    simp only [mem_declared_iff, hat, implies_true]
  refine ⟨hlibrary, hspace, fun slot item hi => (hat slot).trans hi, fun _ _ hi => hkinds ▸ hi, ?_⟩
  intro hi
  refine ⟨?_, ?_, ?_⟩
  · simpa only [hat] using hi.keyed
  · simpa only [OneKind, hat, hkinds] using hi.oneKind
  · simpa only [hat, hdeclared] using hi.owned

theorem space_of_addItem {i' : Interface} (h : i.addItem item = .ok i') :
    i'.library = i.library ∧ i'.space = i.space := by
  cases item with
  | space _ | legacy _ =>
    obtain rfl := Except.ok.inj h
    exact ⟨rfl, rfl⟩
  | record d | enumeration d | object d | callback d | custom d | function d =>
    obtain ⟨table, -, he⟩ := bind_eq_ok.1 h
    obtain rfl := Except.ok.inj he
    exact ⟨rfl, rfl⟩
  | constructor d | method d | traitMethod d =>
    simp only [addItem] at h
    split at h
    · obtain ⟨table, -, he⟩ := bind_eq_ok.1 h
      obtain rfl := Except.ok.inj he
      exact ⟨rfl, rfl⟩
    · cases h

theorem Enters.declared (h : Enters i item slot j) {kind : DeclKind} {name : String}
    (hname : name ∈ i.declared kind) : name ∈ j.declared kind := by
  obtain ⟨known, hknown⟩ := mem_declared_iff.1 hname
  exact mem_declared_iff.2 ⟨known, h.kept hknown⟩

/-- An item enters a well-formed state if its owner is declared there. -/
theorem Enters.wellFormed (h : Enters i item slot j) (hslot : item.slot? = some slot)
    (howner : ∀ owner kinds, slot.owner? = some (owner, kinds) →
      ∃ kind ∈ kinds, owner ∈ i.declared kind) (hi : i.WellFormed) : j.WellFormed where
  keyed := by
    intro s other hs
    rw [h.after] at hs
    split at hs
    · rename_i heq
      obtain rfl := Option.some.inj hs
      exact heq ▸ hslot
    · exact hi.keyed s other hs
  oneKind := h.oneKind hi.oneKind
  owned := by
    intro s other hs owner kinds hmember
    have hbefore : ∃ kind ∈ kinds, owner ∈ i.declared kind := by
      rw [h.after] at hs
      split at hs
      · rename_i heq
        exact howner owner kinds (heq ▸ hmember)
      · exact hi.owned s other hs owner kinds hmember
    obtain ⟨kind, hkind, hdeclared⟩ := hbefore
    exact ⟨kind, hkind, h.declared hdeclared⟩

theorem Enters.kinds_kept (h : Enters i item slot j) {name : String} {kind : DeclKind}
    (hname : i.kinds.get? name = some kind) : j.kinds.get? name = some kind := by
  rw [h.kinds]
  cases slot with
  | declaration other declared =>
    by_cases heq : name = declared
    · subst heq
      obtain hnone | hknown := h.kind other name rfl
      · simp [hnone] at hname
      · simp [Slot.kindOf?, ← hknown, hname]
    · simp [Slot.kindOf?, heq, hname]
  | _ => exact hname

/-- One step: a successful addition. -/
theorem grows_of_addItem (h : i.addItem item = .ok j) : Grows i j := by
  cases hslot : item.slot? with
  | none =>
    obtain rfl := addItem_of_slotless hslot h
    exact .refl j
  | some slot =>
    obtain ⟨hlibrary, hspace⟩ := space_of_addItem h
    have henters := enters_of_addItem hslot h
    have hadmits := exists_addItem_iff.1 ⟨j, h⟩
    exact {
      library := hlibrary
      space := fun _ hname => hspace.trans hname
      kept := fun _ _ => henters.kept
      kinds := fun _ _ => henters.kinds_kept
      wellFormed := henters.wellFormed hslot (hadmits.owner slot hslot) }

/-- A run of additions, up to the first one that fails. -/
theorem grows_addItems (i : Interface) (items : List Item) : Grows i (i.addItems items).1 := by
  induction items generalizing i with
  | nil => exact .refl i
  | cons item rest ih =>
    simp only [addItems]
    split
    · rename_i added hadded
      exact (grows_of_addItem hadded).trans (ih added)
    · exact .refl i

theorem grows_of_setNamespace {name : String} (h : i.setNamespace name = .ok j) : Grows i j := by
  refine grows_of_tables (fun known hknown => ?_) (setNamespace_eq_ok h)
  simp only [setNamespace, hknown] at h
  split at h
  · obtain rfl := Except.ok.inj h
    exact hknown
  · cases h

theorem grows_offerDocstring (i : Interface) (docstring : Option String) :
    Grows i (i.offerDocstring docstring) := by
  unfold offerDocstring
  split
  · exact grows_of_tables (fun _ h => h) rfl
  · exact .refl i

/-- A group that is added takes nothing away, also where it fails. -/
theorem grows_addGroup (i : Interface) (g : Group) : Grows i (i.addGroup g).1 := by
  unfold addGroup
  split
  · exact .refl i
  · split
    · exact .refl i
    · rename_i named hnamed
      exact (grows_of_setNamespace hnamed).trans
        ((grows_offerDocstring named g.docstring).trans (grows_addItems _ _))

/-- A call that adds to an interface. -/
inductive Call where
  | item (item : Item)
  | group (g : Group)

/-- Make a call. What it has added before it fails stays. -/
def call (i : Interface) : Call → Interface × Except Fault Unit
  | .item item => i.addItems [item]
  | .group g => i.addGroup g

/-- The state behind a sequence of calls, of which any may fail. -/
def after (i : Interface) (calls : List Call) : Interface :=
  calls.foldl (fun i c => (i.call c).1) i

/-- A call takes nothing away, also where it fails. -/
theorem grows_call (i : Interface) (c : Call) : Grows i (i.call c).1 := by
  cases c with
  | item item => exact grows_addItems i [item]
  | group g => exact grows_addGroup i g

theorem grows_after (i : Interface) (calls : List Call) : Grows i (i.after calls) := by
  induction calls generalizing i with
  | nil => exact .refl i
  | cons c calls ih => exact (grows_call i c).trans (ih (i.call c).1)

/-- Every state that calls can lead to is well-formed. -/
theorem wellFormed_after (library : String) (calls : List Call) :
    ((empty library).after calls).WellFormed :=
  (grows_after _ calls).wellFormed (wellFormed_empty library)

variable {α : Type}

/-- The members in a table belong to owners, and to list those of one owner after the other is to
list every member once. -/
structure Apportioned (members : Table (String × String) α) (owners : List String)
    (membersOf : String → List α) : Prop where
  owner : ∀ key ∈ members.keys, key.1 ∈ owners
  all : (owners.flatMap membersOf).Perm members.values
  once : (owners.flatMap membersOf).Nodup

/-- The members that some owners own are all members, if every owner is among these. -/
theorem perm_owned (members : Table (String × String) α) {owners : List String}
    (hnodup : owners.Nodup) (howners : ∀ key ∈ members.keys, key.1 ∈ owners) :
    (owners.flatMap fun owner => (ownedBy owner members).map Prod.snd).Perm members.values := by
  have hentries : ∀ entry ∈ members.entries, entry.1.1 ∈ owners :=
    fun entry hentry => howners entry.1 (List.mem_map_of_mem hentry)
  have hperm := (Table.perm_flatMap_filter (fun entry : (String × String) × α => entry.1.1) hnodup
    hentries).map Prod.snd
  simpa [List.map_flatMap, ownedBy, Table.values] using hperm

/-- What holds of the tables of an interface. Every definition stands under its own name, the tables
of declarations have no name in common, the recorded kind of a name is that of the table that has
it, constructors and methods belong to objects and trait methods to objects or callback
interfaces. -/
structure Orderly (i : Interface) : Prop where
  keyed : ∀ slot item, i.at? slot = some item → item.slot? = some slot
  disjoint : ∀ kind kind', kind ≠ kind' → (i.declared kind).Disjoint (i.declared kind')
  recorded : ∀ name kind, i.kinds.get? name = some kind ↔ name ∈ i.declared kind
  constructors : Apportioned i.constructors i.objects.keys i.constructorsOf
  methods : Apportioned i.methods i.objects.keys i.methodsOf
  traitMethods : Apportioned i.traitMethods (i.objects.keys ++ i.callbacks.keys) i.traitMethodsOf

/-- The kind that is recorded for a name is the kind it is declared as. -/
theorem WellFormed.recorded (h : i.WellFormed) (name : String) (kind : DeclKind) :
    i.kinds.get? name = some kind ↔ name ∈ i.declared kind := by
  rw [h.oneKind, mem_declared_iff, Option.ne_none_iff_exists']

/-- Declarations of two kinds have no name in common. -/
theorem WellFormed.disjoint (h : i.WellFormed) {kind kind' : DeclKind} (hne : kind ≠ kind') :
    (i.declared kind).Disjoint (i.declared kind') := by
  intro name hname hname'
  have hkind := (h.recorded name kind).2 hname
  have hkind' := (h.recorded name kind').2 hname'
  exact hne (Option.some.inj (hkind.symm.trans hkind'))

/-- A table holds no item twice. -/
theorem WellFormed.nodup_values (h : i.WellFormed) {κ : Type} [DecidableEq κ] (t : Table κ α)
    (slotOf : κ → Slot) (itemOf : α → Item)
    (hat : ∀ k, i.at? (slotOf k) = (t.get? k).map itemOf) (hinj : Function.Injective slotOf) :
    (t.values.map itemOf).Nodup := by
  have hslots : (t.values.map itemOf).map Item.slot? = (t.keys.map slotOf).map some := by
    simp only [Table.values, Table.keys, List.map_map]
    refine List.map_congr_left fun entry hentry => ?_
    have hget := (t.get?_eq_some_iff entry.1 entry.2).2 hentry
    exact h.keyed (slotOf entry.1) (itemOf entry.2) (by rw [hat, hget, Option.map_some])
  refine List.Nodup.of_map Item.slot? ?_
  rw [hslots]
  exact (t.nodup.map hinj).map (Option.some_injective _)

/-- Members in slots that have an owner are apportioned to the declarations of its kinds. -/
theorem WellFormed.apportioned (h : i.WellFormed) {members : Table (String × String) α}
    {owners : List String} {membersOf : String → List α} {kinds : List DeclKind}
    (slotOf : String × String → Slot) (itemOf : α → Item)
    (hat : ∀ k, i.at? (slotOf k) = (members.get? k).map itemOf) (hinj : Function.Injective slotOf)
    (howner : ∀ k, (slotOf k).owner? = some (k.1, kinds))
    (hkinds : ∀ kind ∈ kinds, i.declared kind ⊆ owners) (hnodup : owners.Nodup)
    (hof : ∀ owner, (membersOf owner).Perm ((ownedBy owner members).map Prod.snd)) :
    Apportioned members owners membersOf := by
  have howners : ∀ k ∈ members.keys, k.1 ∈ owners := by
    intro k hk
    obtain ⟨value, hvalue⟩ := (members.mem_keys_iff k).1 hk
    obtain ⟨kind, hkind, hdeclared⟩ :=
      h.owned (slotOf k) (itemOf value) (by rw [hat, hvalue, Option.map_some]) _ _ (howner k)
    exact hkinds kind hkind hdeclared
  have hall : (owners.flatMap membersOf).Perm members.values :=
    (List.Perm.flatMap_left owners fun owner _ => hof owner).trans
      (perm_owned members hnodup howners)
  have honce : members.values.Nodup :=
    .of_map itemOf (h.nodup_values members slotOf itemOf hat hinj)
  exact ⟨howners, hall, hall.nodup_iff.2 honce⟩

/-- A well-formed state is orderly. -/
theorem WellFormed.orderly (h : i.WellFormed) : i.Orderly where
  keyed := h.keyed
  disjoint := fun _ _ => h.disjoint
  recorded := h.recorded
  constructors := by
    refine h.apportioned (fun k => .constructor k.1 k.2) .constructor (fun _ => rfl) ?_
      (fun _ => rfl) ?_ i.objects.nodup fun owner => (Order.perm_sortBy _ _).map _
    · simp [Function.Injective]
    · simp [declared]
  methods := by
    refine h.apportioned (fun k => .method k.1 k.2) .method (fun _ => rfl) ?_
      (fun _ => rfl) ?_ i.objects.nodup fun owner => (Order.perm_sortBy _ _).map _
    · simp [Function.Injective]
    · simp [declared]
  traitMethods := by
    have hdisjoint : (i.declared .object).Disjoint (i.declared .callback) := h.disjoint (by decide)
    have hnodup : (i.objects.keys ++ i.callbacks.keys).Nodup :=
      i.objects.nodup.append i.callbacks.nodup hdisjoint
    refine h.apportioned (fun k => .traitMethod k.1 k.2) .traitMethod (fun _ => rfl) ?_
      (fun _ => rfl) ?_ hnodup fun owner => Order.perm_sortBy _ _
    · simp [Function.Injective]
    · simp [declared]

/-- Whatever additions an interface has seen, succeeding or failing, its tables are in order, later
additions neither remove nor change a definition, the kind of a name or the public name, and the
addition of an item that fails changes nothing. -/
theorem after_orderly (library : String) (calls later : List Call) :
    ((empty library).after calls).Orderly ∧
      ((∀ slot item, ((empty library).after calls).at? slot = some item →
          (((empty library).after calls).after later).at? slot = some item) ∧
        (∀ name kind, ((empty library).after calls).kinds.get? name = some kind →
          (((empty library).after calls).after later).kinds.get? name = some kind) ∧
        ∀ name, ((empty library).after calls).space = some name →
          (((empty library).after calls).after later).space = some name) ∧
      ∀ item failed fault, ((empty library).after calls).call (.item item) =
        (failed, .error fault) → failed = (empty library).after calls := by
  have hgrows := grows_after ((empty library).after calls) later
  refine ⟨(wellFormed_after library calls).orderly, ⟨hgrows.kept, hgrows.kinds, hgrows.space⟩, ?_⟩
  intro item failed fault h
  simp only [call, addItems] at h
  split at h
  · cases (Prod.mk.inj h).2
  · exact (Prod.mk.inj h).1.symm

end Interface
end Bindery
