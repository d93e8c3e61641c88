import Bindery.Interface.Basic
import Bindery.Proofs.Item.Term
import Bindery.Proofs.Outcome
import Bindery.Proofs.Table
/-!
# What an interface holds

The nine tables as one look-up by slot. A successful addition enters the item in its slot, which
was empty or held the same item, and leaves every other slot as it is.
-/
namespace Bindery

open Outcome

/-- The place of a definition in an interface: its table and its key. -/
inductive Slot where
  | declaration (kind : DeclKind) (name : String)
  | function (name : String)
  | constructor (owner name : String)
  | method (owner name : String)
  | traitMethod (owner name : String)
  deriving DecidableEq

/-- The slot of an item; facts about the library have none. -/
def Item.slot? : Item → Option Slot
  | space _ | legacy _ => none
  | custom c => some (.declaration .custom c.name)
  | record r => some (.declaration .record r.name)
  | enumeration e => some (.declaration .enumeration e.name)
  | object o => some (.declaration .object o.name)
  | callback c => some (.declaration .callback c.name)
  | constructor c => some (.constructor c.owner c.name)
  | method m => some (.method m.owner m.name)
  | traitMethod m => some (.traitMethod m.owner m.name)
  | function f => some (.function f.name)

/-- The kind under which a slot declares a name. -/
def Slot.kindOf? : Slot → String → Option DeclKind
  | .declaration kind declared, name => if name = declared then some kind else none
  | _, _ => none

namespace Interface

/-- The definition in a slot. -/
def at? (i : Interface) : Slot → Option Item
  | .declaration .record name => (i.records.get? name).map Item.record
  | .declaration .enumeration name => (i.enumerations.get? name).map Item.enumeration
  | .declaration .object name => (i.objects.get? name).map Item.object
  | .declaration .callback name => (i.callbacks.get? name).map Item.callback
  | .declaration .custom name => (i.customs.get? name).map Item.custom
  | .function name => (i.functions.get? name).map Item.function
  | .constructor owner name => (i.constructors.get? (owner, name)).map Item.constructor
  | .method owner name => (i.methods.get? (owner, name)).map Item.method
  | .traitMethod owner name => (i.traitMethods.get? (owner, name)).map Item.traitMethod

/-- A value enters a table if its key has no other, and the rest of the table stays. -/
theorem enter_eq_ok {κ α : Type} [DecidableEq κ] [DecidableEq α] {table table' : Table κ α}
    {key : κ} {value : α} {conflict : Fault} (h : enter table key value conflict = .ok table') :
    (table.get? key = none ∨ table.get? key = some value) ∧
      ∀ k, table'.get? k = if k = key then some value else table.get? k := by
  unfold enter at h
  cases hget : table.get? key with
  | none =>
    simp only [hget, Except.ok.injEq] at h
    subst h
    exact ⟨.inl rfl, fun k => table.get?_insert key k value⟩
  | some known =>
    simp only [hget] at h
    split at h
    · rename_i hknown
      obtain rfl := Except.ok.inj h
      subst hknown
      refine ⟨.inr rfl, fun k => ?_⟩
      by_cases hk : k = key
      · rw [if_pos hk, hk, hget]
      · rw [if_neg hk]
    · cases h

theorem declare_eq_ok {α : Type} [DecidableEq α] {i : Interface} {table table' : Table String α}
    {kind : DeclKind} {name : String} {value : α}
    (h : i.declare table kind name value = .ok table') :
    (i.kinds.get? name = none ∨ i.kinds.get? name = some kind) ∧
      (table.get? name = none ∨ table.get? name = some value) ∧
      ∀ k, table'.get? k = if k = name then some value else table.get? k := by
  unfold declare at h
  cases hkind : i.kinds.get? name with
  | none =>
    simp only [hkind] at h
    exact ⟨.inl rfl, enter_eq_ok h⟩
  | some known =>
    simp only [hkind] at h
    split at h
    · rename_i hknown
      exact ⟨.inr (by rw [hknown]), enter_eq_ok h⟩
    · cases h

/-- What a successful addition of a definition does. -/
structure Enters (i : Interface) (item : Item) (slot : Slot) (i' : Interface) : Prop where
  before : i.at? slot = none ∨ i.at? slot = some item
  after : ∀ s, i'.at? s = if s = slot then some item else i.at? s
  kind : ∀ kind name, slot = .declaration kind name →
    i.kinds.get? name = none ∨ i.kinds.get? name = some kind
  kinds : ∀ name, i'.kinds.get? name = (slot.kindOf? name).or (i.kinds.get? name)
  free : i.free = none → i'.free = none

theorem map_ite_some {α β : Type} (f : α → β) (p : Prop) [Decidable p] (value : α)
    (x : Option α) :
    Option.map f (if p then some value else x) = if p then some (f value) else x.map f := by
  split <;> rfl

/-- An item with a slot enters there. -/
theorem enters_of_addItem {i i' : Interface} {item : Item} {slot : Slot}
    (hslot : item.slot? = some slot) (h : i.addItem item = .ok i') : Enters i item slot i' := by
  cases item with
  | space _ | legacy _ => cases hslot
  | record d | enumeration d | object d | callback d | custom d =>
    obtain rfl := Option.some.inj hslot
    obtain ⟨table, htable, he⟩ := bind_eq_ok.1 h
    obtain rfl := Except.ok.inj he
    obtain ⟨hkind, hbefore, hafter⟩ := declare_eq_ok htable
    refine ⟨?_, fun s => ?_, ?_, fun name => ?_, fun _ => rfl⟩
    · simpa [at?] using hbefore
    · cases s with
      | declaration kind name => cases kind <;> simp [at?, hafter, map_ite_some]
      | _ => simp [at?]
    · rintro _ _ ⟨⟩
      exact hkind
    · simp only [Table.get?_insert, Slot.kindOf?]
      split <;> rfl
  | function d =>
    obtain rfl := Option.some.inj hslot
    obtain ⟨table, htable, he⟩ := bind_eq_ok.1 h
    obtain rfl := Except.ok.inj he
    obtain ⟨hbefore, hafter⟩ := enter_eq_ok htable
    refine ⟨?_, fun s => ?_, ?_, fun _ => rfl, id⟩
    · simpa [at?] using hbefore
    · cases s with
      | declaration kind name => cases kind <;> simp [at?]
      | _ => simp [at?, hafter, map_ite_some]
    · rintro _ _ ⟨⟩
  | constructor d | method d | traitMethod d =>
    obtain rfl := Option.some.inj hslot
    simp only [addItem] at h
    split at h
    · obtain ⟨table, htable, he⟩ := bind_eq_ok.1 h
      obtain rfl := Except.ok.inj he
      obtain ⟨hbefore, hafter⟩ := enter_eq_ok htable
      refine ⟨?_, fun s => ?_, ?_, fun _ => rfl, id⟩
      · simpa [at?] using hbefore
      · cases s with
        | declaration kind name => cases kind <;> simp [at?]
        | _ => simp [at?, hafter, map_ite_some]
      · rintro _ _ ⟨⟩
    · cases h

theorem addItem_of_slotless {i i' : Interface} {item : Item} (hslot : item.slot? = none)
    (h : i.addItem item = .ok i') : i' = i := by
  cases item with
  | space _ | legacy _ => exact (Except.ok.inj h).symm
  | _ => cases hslot

/-- A name is declared under one kind at most: the one that is recorded for it. -/
def OneKind (i : Interface) : Prop :=
  ∀ name kind, i.kinds.get? name = some kind ↔ i.at? (.declaration kind name) ≠ none

theorem oneKind_empty (library : String) : (empty library).OneKind := by
  intro name kind
  cases kind <;> exact iff_of_false (by rintro ⟨⟩) (· rfl)

/-- A name is declared as one kind of thing. -/
theorem OneKind.unique {i : Interface} (hi : i.OneKind) {name : String} {kind kind' : DeclKind}
    {a b : Item} (ha : i.at? (.declaration kind name) = some a)
    (hb : i.at? (.declaration kind' name) = some b) : kind = kind' := by
  have hkind := (hi name kind).2 (by simp [ha])
  have hkind' := (hi name kind').2 (by simp [hb])
  exact Option.some.inj (hkind.symm.trans hkind')

/-- A name that enters had no kind before, or the kind that it enters with. -/
theorem Enters.oneKind {i i' : Interface} {item : Item} {slot : Slot} (h : Enters i item slot i')
    (hi : i.OneKind) : i'.OneKind := by
  intro name kind
  rw [h.kinds, h.after]
  cases hslot : slot.kindOf? name with
  | none =>
    have hne : Slot.declaration kind name ≠ slot := by
      rintro rfl
      simp [Slot.kindOf?] at hslot
    rw [if_neg hne]
    exact hi name kind
  | some declared =>
    obtain rfl : slot = .declaration declared name := by
      cases slot <;> simp_all [Slot.kindOf?]
    by_cases hkind : declared = kind
    · simp [hkind]
    · have hnone : i.at? (.declaration kind name) = none := by
        by_contra hother
        have hrecorded := (hi name kind).2 hother
        obtain hfree | hknown := h.kind declared name rfl
        · simp [hfree] at hrecorded
        · exact hkind (Option.some.inj (hknown.symm.trans hrecorded))
      have hne : Slot.declaration kind name ≠ .declaration declared name :=
        fun e => hkind (Slot.declaration.inj e).1.symm
      simp [hkind, hne, hnone]

/-- What a successful addition of several definitions does: each is in its slot afterwards, what was
there stays, and nothing else comes in. -/
structure EntersAll (i : Interface) (items : List Item) (i' : Interface) : Prop where
  entered : ∀ item ∈ items, ∀ slot, item.slot? = some slot → i'.at? slot = some item
  kept : ∀ slot item, i.at? slot = some item → i'.at? slot = some item
  source : ∀ slot item, i'.at? slot = some item →
    i.at? slot = some item ∨ item ∈ items ∧ item.slot? = some slot
  oneKind : i.OneKind → i'.OneKind
  free : i.free = none → i'.free = none

theorem EntersAll.refl (i : Interface) : EntersAll i [] i where
  entered := by simp
  kept := fun _ _ h => h
  source := fun _ _ h => .inl h
  oneKind := id
  free := id

/-- What an interface holds stays where it is. -/
theorem Enters.kept {i i' : Interface} {item : Item} {slot : Slot} (h : Enters i item slot i')
    {s : Slot} {known : Item} (hs : i.at? s = some known) : i'.at? s = some known := by
  rw [h.after]
  split
  · rename_i heq
    obtain hnone | hsome := h.before
    · rw [heq, hnone] at hs
      cases hs
    · rw [← hsome, ← heq, hs]
  · exact hs

theorem entersAll_of_addItem {i i' : Interface} {item : Item} (h : i.addItem item = .ok i') :
    EntersAll i [item] i' := by
  cases hslot : item.slot? with
  | none =>
    obtain rfl := addItem_of_slotless hslot h
    exact {
      entered := by simp [hslot]
      kept := fun _ _ h => h
      source := fun _ _ h => .inl h
      oneKind := id
      free := id }
  | some slot =>
    have hin := enters_of_addItem hslot h
    refine {
      entered := ?_
      kept := fun _ _ => hin.kept
      source := ?_
      oneKind := hin.oneKind
      free := hin.free }
    · intro other hmem s hs
      obtain rfl := List.mem_singleton.1 hmem
      obtain rfl := Option.some.inj (hslot.symm.trans hs)
      rw [hin.after, if_pos rfl]
    · intro s other hs
      rw [hin.after] at hs
      split at hs
      · rename_i heq
        obtain rfl := Option.some.inj hs
        exact .inr ⟨List.mem_singleton.2 rfl, heq ▸ hslot⟩
      · exact .inl hs

/-- Items enter one after the other. -/
theorem EntersAll.append {i j k : Interface} {front back : List Item} (h : EntersAll i front j)
    (h' : EntersAll j back k) : EntersAll i (front ++ back) k where
  entered := by
    intro item hmem slot hslot
    obtain hfront | hback := List.mem_append.1 hmem
    · exact h'.kept slot item (h.entered item hfront slot hslot)
    · exact h'.entered item hback slot hslot
  kept := fun slot item hat => h'.kept slot item (h.kept slot item hat)
  source := by
    intro slot item hat
    obtain hold | ⟨hback, hslot⟩ := h'.source slot item hat
    · obtain hold | ⟨hfront, hslot⟩ := h.source slot item hold
      · exact .inl hold
      · exact .inr ⟨List.mem_append_left back hfront, hslot⟩
    · exact .inr ⟨List.mem_append_right front hback, hslot⟩
  oneKind := h'.oneKind ∘ h.oneKind
  free := h'.free ∘ h.free

/-- Items that are added without a fault have all entered. -/
theorem entersAll_of_addItems {items : List Item} {i i' : Interface}
    (h : i.addItems items = (i', .ok ())) : EntersAll i items i' := by
  induction items generalizing i with
  | nil =>
    obtain rfl := (Prod.mk.inj h).1
    exact .refl i
  | cons item rest ih =>
    simp only [addItems] at h
    split at h
    · rename_i added hadded
      exact (entersAll_of_addItem hadded).append (ih h)
    · cases (Prod.mk.inj h).2

theorem at?_congr {i i' : Interface}
    (h : { i' with space := i.space, docstring := i.docstring } = i) (slot : Slot) :
    i'.at? slot = i.at? slot := by
  rw [← h]
  cases slot with
  | declaration kind name => cases kind <;> rfl
  | _ => rfl

theorem setNamespace_eq_ok {i named : Interface} {name : String}
    (h : i.setNamespace name = .ok named) :
    { named with space := i.space, docstring := i.docstring } = i := by
  unfold setNamespace at h
  cases hspace : i.space with
  | none =>
    simp only [hspace, Except.ok.injEq] at h
    subst h
    rw [← hspace]
  | some known =>
    simp only [hspace] at h
    split at h
    · obtain rfl := Except.ok.inj h
      rw [← hspace]
    · cases h

/-- The name and the docstring that a group brings are no part of the tables. -/
theorem offerDocstring_eq_of_setNamespace {i named : Interface} {name : String}
    (h : i.setNamespace name = .ok named) (docstring : Option String) :
    { named.offerDocstring docstring with space := i.space, docstring := i.docstring } = i := by
  have htables := setNamespace_eq_ok h
  unfold offerDocstring
  split <;> exact htables

theorem EntersAll.congr {i j k : Interface} {items items' : List Item} (h : EntersAll j items k)
    (hat : ∀ slot, j.at? slot = i.at? slot) (hkinds : j.kinds = i.kinds) (hfree : j.free = i.free)
    (hitems : items.Perm items') : EntersAll i items' k where
  entered := fun item hmem => h.entered item (hitems.mem_iff.2 hmem)
  kept := fun slot item hs => h.kept slot item ((hat slot).trans hs)
  source := fun slot item hs => by
    rw [← hat slot, ← hitems.mem_iff]
    exact h.source slot item hs
  oneKind := fun hi => h.oneKind fun name kind => by rw [hkinds, hat]; exact hi name kind
  free := fun hi => h.free (hfree.trans hi)

/-- When a group is added without a fault, all its items have entered. -/
theorem entersAll_of_addGroup {i i' : Interface} {g : Group} (h : i.addGroup g = (i', .ok ())) :
    EntersAll i g.items i' := by
  unfold addGroup at h
  split at h
  · cases (Prod.mk.inj h).2
  split at h
  · cases (Prod.mk.inj h).2
  rename_i named hnamed
  have hsame := offerDocstring_eq_of_setNamespace hnamed g.docstring
  have hkinds := congrArg Interface.kinds hsame
  have hfree := congrArg Interface.free hsame
  exact (entersAll_of_addItems h).congr (at?_congr hsame) hkinds hfree (Item.perm_sorted g.items)

theorem entersAll_of_addGroups {groups : List Group} {i i' : Interface}
    (h : i.addGroups groups = .ok i') : EntersAll i (groups.flatMap Group.items) i' := by
  induction groups generalizing i with
  | nil =>
    obtain rfl := Except.ok.inj h
    exact .refl i
  | cons g groups ih =>
    simp only [addGroups] at h
    split at h
    · rename_i added hadded
      rw [List.flatMap_cons]
      exact (entersAll_of_addGroup hadded).append (ih h)
    · cases h

theorem slot?_of_ident? {item : Item} {id : Ident} (h : item.ident? = some id) :
    ∃ kind, item.slot? = some (.declaration kind id.name) := by
  cases item with
  | record r | enumeration e =>
    obtain rfl := Option.some.inj h
    exact ⟨_, rfl⟩
  | _ => cases h

/-- Of two definitions of one identifier an interface takes at most one. -/
theorem EntersAll.eq_of_ident? {i i' : Interface} {items : List Item} (h : EntersAll i items i')
    (hi : i.OneKind) {a b : Item} (ha : a ∈ items) (hb : b ∈ items) {id : Ident}
    (hida : a.ident? = some id) (hidb : b.ident? = some id) : a = b := by
  obtain ⟨kind, hslot⟩ := slot?_of_ident? hida
  obtain ⟨kind', hslot'⟩ := slot?_of_ident? hidb
  have hat := h.entered a ha _ hslot
  have hat' := h.entered b hb _ hslot'
  obtain rfl := (h.oneKind hi).unique hat hat'
  exact Option.some.inj (hat.symm.trans hat')

end Interface
end Bindery
