import Bindery.Proofs.Interface.States
/-!
# The merge law

A group can be merged into an interface exactly when the definitions of both are coherent together.
The law asks about the union alone: in which order the definitions came does not matter, because the
canonical order puts every owner in front of its members and nothing is ever overwritten.
-/
namespace Bindery

/-- The items of a group that define something: all but namespace items and legacy markers. -/
def Group.definitions (g : Group) : List Item := g.items.filter fun item => item.slot?.isSome

/-- Definitions that can stand in one interface. No two distinct functions have one name, and no two
distinct members of one kind have one owner and name; no two distinct declarations have one name,
whatever their kinds; and the owner of every member is declared under a kind that its members ask
for. -/
structure Coherent (items : List Item) : Prop where
  slots : ∀ a ∈ items, ∀ b ∈ items, ∀ slot, a.slot? = some slot → b.slot? = some slot → a = b
  names : ∀ a ∈ items, ∀ b ∈ items, ∀ kind kind' name, a.slot? = some (.declaration kind name) →
    b.slot? = some (.declaration kind' name) → a = b
  owners : ∀ a ∈ items, ∀ slot, a.slot? = some slot →
    ∀ owner kinds, slot.owner? = some (owner, kinds) →
      ∃ b ∈ items, ∃ kind ∈ kinds, b.slot? = some (.declaration kind owner)

/-- Coherence is about definitions only. -/
theorem Coherent.congr {items items' : List Item} (h : Coherent items)
    (hmem : ∀ item slot, item.slot? = some slot → (item ∈ items' ↔ item ∈ items)) :
    Coherent items' where
  slots := fun a ha b hb slot hslot hslot' =>
    h.slots a ((hmem a slot hslot).1 ha) b ((hmem b slot hslot').1 hb) slot hslot hslot'
  names := fun a ha b hb kind kind' name hslot hslot' =>
    h.names a ((hmem a _ hslot).1 ha) b ((hmem b _ hslot').1 hb) kind kind' name hslot hslot'
  owners := by
    intro a ha slot hslot owner kinds howner
    obtain ⟨b, hb, kind, hkind, hdeclares⟩ :=
      h.owners a ((hmem a slot hslot).1 ha) slot hslot owner kinds howner
    exact ⟨b, (hmem b _ hdeclares).2 hb, kind, hkind, hdeclares⟩

/-- In canonical order every declaration stands in front of every member. -/
theorem Item.rank_declaration_lt {declaration member : Item} {kind : DeclKind} {name : String}
    {slot : Slot} {owner : String × List DeclKind}
    (hdeclaration : declaration.slot? = some (.declaration kind name))
    (hmember : member.slot? = some slot) (howner : slot.owner? = some owner) :
    declaration.rank < member.rank := by
  have hlow : declaration.rank < 7 := by
    cases declaration <;> simp_all [slot?, rank]
  have hhigh : 7 ≤ member.rank := by
    cases member <;> simp [slot?, rank] at hmember ⊢ <;> subst hmember <;> cases howner
  omega

namespace Interface

variable {i i' : Interface} {item : Item} {items : List Item} {slot : Slot}

/-- An item is listed exactly if it stands in its slot. -/
theorem WellFormed.mem_items_iff (h : i.WellFormed) (hslot : item.slot? = some slot) :
    item ∈ i.items ↔ i.at? slot = some item := by
  rw [Interface.mem_items_iff]
  constructor
  · rintro ⟨other, hat⟩
    obtain rfl := Option.some.inj (hslot.symm.trans (h.keyed other item hat))
    exact hat
  · exact fun hat => ⟨slot, hat⟩

/-- Every item that is listed has a slot and stands there. -/
theorem WellFormed.slot_of_mem (h : i.WellFormed) (hitem : item ∈ i.items) :
    ∃ slot, item.slot? = some slot ∧ i.at? slot = some item := by
  obtain ⟨slot, hat⟩ := (Interface.mem_items_iff i item).1 hitem
  exact ⟨slot, h.keyed slot item hat, hat⟩

/-- The items of a state are coherent. -/
theorem WellFormed.coherent (h : i.WellFormed) : Coherent i.items where
  slots := by
    intro a ha b hb slot hslot hslot'
    have hat := (h.mem_items_iff hslot).1 ha
    have hat' := (h.mem_items_iff hslot').1 hb
    exact Option.some.inj (hat.symm.trans hat')
  names := by
    intro a ha b hb kind kind' name hslot hslot'
    have hat := (h.mem_items_iff hslot).1 ha
    have hat' := (h.mem_items_iff hslot').1 hb
    obtain rfl := h.oneKind.unique hat hat'
    exact Option.some.inj (hat.symm.trans hat')
  owners := by
    intro a ha slot hslot owner kinds howner
    have hat := (h.mem_items_iff hslot).1 ha
    obtain ⟨kind, hkind, hdeclared⟩ := h.owned slot a hat owner kinds howner
    obtain ⟨b, hb⟩ := mem_declared_iff.1 hdeclared
    exact ⟨b, (Interface.mem_items_iff i b).2 ⟨_, hb⟩, kind, hkind, h.keyed _ b hb⟩

/-- A state lists no definition twice. -/
theorem WellFormed.nodup_items (h : i.WellFormed) : i.items.Nodup := by
  have hfunctions := h.nodup_values i.functions .function .function (fun _ => rfl)
    (by simp [Function.Injective])
  have hrecords := h.nodup_values i.records (.declaration .record) .record (fun _ => rfl)
    (by simp [Function.Injective])
  have henumerations := h.nodup_values i.enumerations (.declaration .enumeration) .enumeration
    (fun _ => rfl) (by simp [Function.Injective])
  have hobjects := h.nodup_values i.objects (.declaration .object) .object (fun _ => rfl)
    (by simp [Function.Injective])
  have hcallbacks := h.nodup_values i.callbacks (.declaration .callback) .callback (fun _ => rfl)
    (by simp [Function.Injective])
  have hcustoms := h.nodup_values i.customs (.declaration .custom) .custom (fun _ => rfl)
    (by simp [Function.Injective])
  have hconstructors := h.nodup_values i.constructors (fun k => .constructor k.1 k.2) .constructor
    (fun _ => rfl) (by simp [Function.Injective])
  have hmethods := h.nodup_values i.methods (fun k => .method k.1 k.2) .method (fun _ => rfl)
    (by simp [Function.Injective])
  have htraitMethods := h.nodup_values i.traitMethods (fun k => .traitMethod k.1 k.2) .traitMethod
    (fun _ => rfl) (by simp [Function.Injective])
  simp [items, List.nodup_append', List.disjoint_left, *]

/-- The definitions behind a successful addition are those before it and the new ones. -/
theorem EntersAll.mem_items_iff (h : EntersAll i items i') (hi' : i'.WellFormed) {slot : Slot}
    (hslot : item.slot? = some slot) : item ∈ i'.items ↔ item ∈ i.items ++ items := by
  rw [hi'.mem_items_iff hslot, List.mem_append, Interface.mem_items_iff]
  constructor
  · intro hat
    obtain hold | ⟨hnew, -⟩ := h.source slot item hat
    · exact .inl ⟨slot, hold⟩
    · exact .inr hnew
  · rintro (⟨other, hold⟩ | hnew)
    · have hat := h.kept other item hold
      obtain rfl := Option.some.inj (hslot.symm.trans (hi'.keyed other item hat))
      exact hat
    · exact h.entered item hnew slot hslot

/-- The first of several coherent items finds room, if no declaration stands behind a member. -/
theorem WellFormed.admits (h : i.WellFormed) (hcoherent : Coherent (i.items ++ item :: items))
    (horder : ∀ later ∈ items, item.rank ≤ later.rank) : i.Admits item where
  slot := by
    intro slot hslot
    cases hat : i.at? slot with
    | none => exact .inl rfl
    | some known =>
      have hknown := h.keyed slot known hat
      have hmem := (h.mem_items_iff hknown).2 hat
      have hsame := hcoherent.slots known (by simp [hmem]) item (by simp) slot hknown hslot
      exact .inr (congrArg some hsame)
  kind := by
    intro kind name hslot
    cases hrecorded : i.kinds.get? name with
    | none => exact .inl rfl
    | some known =>
      obtain ⟨other, hat⟩ := mem_declared_iff.1 ((h.recorded name known).1 hrecorded)
      have hother := h.keyed _ other hat
      have hmem := (h.mem_items_iff hother).2 hat
      obtain rfl := hcoherent.names other (by simp [hmem]) item (by simp) _ _ name hother hslot
      have hkind := (Slot.declaration.inj (Option.some.inj (hother.symm.trans hslot))).1
      exact .inr (congrArg some hkind)
  owner := by
    intro slot hslot owner kinds howner
    obtain ⟨b, hb, kind, hkind, hdeclares⟩ :=
      hcoherent.owners item (by simp) slot hslot owner kinds howner
    have hrank := Item.rank_declaration_lt hdeclares hslot howner
    -- the owner is no later item, for it would stand in front of the member then
    have hold : b ∈ i.items := by
      obtain hold | hnew := List.mem_append.1 hb
      · exact hold
      · rcases List.mem_cons.1 hnew with rfl | hlater
        · omega
        · have := horder b hlater
          omega
    exact ⟨kind, hkind, mem_declared_iff.2 ⟨b, (h.mem_items_iff hdeclares).1 hold⟩⟩

/-- Coherent items that come in the order of their ranks are all added. -/
theorem WellFormed.exists_addItems (h : i.WellFormed) (hcoherent : Coherent (i.items ++ items))
    (horder : items.Pairwise fun a b => a.rank ≤ b.rank) :
    ∃ i', i.addItems items = (i', .ok ()) := by
  induction items generalizing i with
  | nil => exact ⟨i, rfl⟩
  | cons item rest ih =>
    obtain ⟨hfirst, hrest⟩ := List.pairwise_cons.1 horder
    obtain ⟨added, hadded⟩ := exists_addItem_iff.2 (h.admits hcoherent hfirst)
    have hwell := (grows_of_addItem hadded).wellFormed h
    have hcoherent' : Coherent (added.items ++ rest) := by
      refine hcoherent.congr fun other slot hslot => ?_
      rw [List.mem_append, (entersAll_of_addItem hadded).mem_items_iff hwell hslot]
      simp [or_assoc]
    obtain ⟨i', hi'⟩ := ih hwell hcoherent' hrest
    exact ⟨i', by simp [addItems, hadded, hi']⟩

variable {g g' : Group}

/-- A group of the library with a fitting name gets as far as its items. -/
theorem exists_named (hlibrary : g.library = i.library)
    (hspace : ∀ known, i.space = some known → known = g.space.name) :
    ∃ named, Grows i named ∧ (∀ slot, named.at? slot = i.at? slot) ∧
      i.addGroup g = named.addItems g.sortedItems := by
  have hset : ∃ named, i.setNamespace g.space.name = .ok named := by
    unfold setNamespace
    cases hname : i.space with
    | none => exact ⟨_, rfl⟩
    | some known => exact ⟨i, by simp [hspace known hname]⟩
  obtain ⟨named, hnamed⟩ := hset
  refine ⟨named.offerDocstring g.docstring,
    (grows_of_setNamespace hnamed).trans (grows_offerDocstring _ _), fun slot => ?_, ?_⟩
  · exact at?_congr (offerDocstring_eq_of_setNamespace hnamed g.docstring) slot
  · simp [addGroup, hlibrary, hnamed]

theorem mem_definitions_iff (g : Group) {slot : Slot} (hslot : item.slot? = some slot) :
    item ∈ g.definitions ↔ item ∈ g.items := by
  simp [Group.definitions, hslot]

/-- What a group leaves behind when it was merged: the definitions of the state and its own ones and
no others, listed without repetition in the canonical order. -/
structure Merged (i : Interface) (g : Group) (merged : Interface) : Prop where
  items : ∀ item, item ∈ merged.items ↔ item ∈ i.items ∨ item ∈ g.definitions
  listed : merged.sortedItems.Perm merged.items
  increasing : merged.sortedItems.Pairwise fun a b =>
    Item.SortKey.compare a.sortKey b.sortKey = .lt

/-- When a group is added without a fault, its definitions have been merged in. -/
theorem WellFormed.merged (h : i.WellFormed) {merged : Interface}
    (hmerged : i.addGroup g = (merged, .ok ())) : Merged i g merged := by
  have hgrows := grows_addGroup i g
  rw [hmerged] at hgrows
  have hwell := hgrows.wellFormed h
  have hall := entersAll_of_addGroup hmerged
  refine ⟨fun item => ?_, Item.perm_sorted _, Item.pairwise_lt_sorted hwell.nodup_items⟩
  cases hslot : item.slot? with
  | some slot => rw [hall.mem_items_iff hwell hslot, List.mem_append, mem_definitions_iff g hslot]
  | none =>
    have hout : ∀ j : Interface, j.WellFormed → item ∉ j.items := by
      intro j hj hmem
      obtain ⟨slot, hsome, -⟩ := hj.slot_of_mem hmem
      simp [hslot] at hsome
    simp [hout _ hwell, hout _ h, Group.definitions, hslot]

/-- A group of the library can be added exactly if its definitions are coherent with what is
there. -/
theorem WellFormed.addGroup_eq_ok_iff (h : i.WellFormed) (hlibrary : g.library = i.library)
    (hspace : ∀ known, i.space = some known → known = g.space.name) :
    (i.addGroup g).2 = .ok () ↔ Coherent (i.items ++ g.definitions) := by
  constructor
  · intro hok
    have hmerged : i.addGroup g = ((i.addGroup g).1, .ok ()) := Prod.ext rfl hok
    have hwell := (grows_addGroup i g).wellFormed h
    refine hwell.coherent.congr fun item _ _ => ?_
    rw [List.mem_append, (h.merged hmerged).items]
  · intro hcoherent
    obtain ⟨named, hgrows, hat, hgroup⟩ := exists_named hlibrary hspace
    have hwell := hgrows.wellFormed h
    have hcoherent' : Coherent (named.items ++ g.sortedItems) := by
      refine hcoherent.congr fun item slot hslot => ?_
      rw [List.mem_append, List.mem_append, hwell.mem_items_iff hslot, hat, h.mem_items_iff hslot,
        mem_definitions_iff g hslot, Group.sortedItems, Item.mem_sorted]
    obtain ⟨i', hi'⟩ := hwell.exists_addItems hcoherent' (Item.pairwise_rank_sorted g.items)
    rw [hgroup, hi']

end Interface
end Bindery
