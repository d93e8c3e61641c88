import Bindery.Proofs.Group.Basic
import Bindery.Proofs.Reachability.Single
/-!
# Where the items are after grouping

Every item that joins a group is there, resolved, and a group holds nothing else. Two items of one
identifier come into one group.
-/
namespace Bindery.GroupMap

open Outcome Reachability

variable {items : List Item} {base groups : GroupMap} {staged : List Placement}

/-- The members among some items are those that are no namespaces. -/
theorem mem_members {item : Item} :
    item ∈ members items ↔ item ∈ items ∧ item.isNamespace = false := by
  simp [members, List.mem_filter]

theorem mem_placedIn {library : String} {item : Item} :
    item ∈ placedIn library staged ↔ (⟨library, item⟩ : Placement) ∈ staged := by
  simp only [placedIn, List.mem_map, List.mem_filter, decide_eq_true_eq]
  constructor
  · rintro ⟨p, ⟨hp, rfl⟩, rfl⟩
    exact hp
  · exact fun h => ⟨_, ⟨h, rfl⟩, rfl⟩

/-- A placement keeps its item but for the types in it. -/
theorem Placeable.keeps {free : List Ident} {item : Item} {p : Placement}
    (h : Placeable groups free item p) :
    Resolution.Keeps ⟨item.library, groups.names, free⟩ item p.item :=
  Resolution.keeps_of_resolveIn h.resolved

/-- An item has one placement. -/
theorem Placeable.unique {free : List Ident} {item : Item} {p q : Placement}
    (hp : Placeable groups free item p) (hq : Placeable groups free item q) : p = q := by
  obtain ⟨library, resolved⟩ := p
  obtain ⟨library', resolved'⟩ := q
  obtain rfl := Except.ok.inj (hp.resolved.symm.trans hq.resolved)
  obtain rfl : library = library' := hp.library.trans hq.library.symm
  rfl

/-- A group is that of a declared library, and it holds what was placed in it. -/
theorem Grouped.of_get? (h : Grouped items base staged groups) {library : String} {g : Group}
    (hg : groups.get? library = some g) :
    base.get? library = some (Group.empty g.space) ∧ g.library = library ∧ g.docstring = none ∧
      g.items = placedIn library staged := by
  have hplaces := h.places library
  rw [hg] at hplaces
  obtain ⟨known, hknown, hshown⟩ := Option.map_eq_some_iff.1 hplaces.symm
  obtain ⟨n, -, hn, rfl⟩ := (h.declares library known).1 hknown
  simp only [shown, Prod.mk.injEq, Group.empty, List.nil_append] at hshown
  obtain ⟨hspace, hdocstring, hitems⟩ := hshown
  subst hspace
  exact ⟨hknown, hn, hdocstring.symm, hitems.symm⟩

theorem Grouped.exists_get? (h : Grouped items base staged groups) {library : String}
    {known : Group} (hbase : base.get? library = some known) :
    ∃ g, groups.get? library = some g := by
  have hplaces := h.places library
  rw [hbase] at hplaces
  obtain ⟨g, hg, -⟩ := Option.map_eq_some_iff.1 hplaces
  exact ⟨g, hg⟩

/-- Every item that joins a group is in that of its library. -/
theorem Grouped.exists_placed (h : Grouped items base staged groups) {item : Item}
    (hitem : item ∈ members items) :
    ∃ g resolved, groups.get? item.library = some g ∧ resolved ∈ g.items ∧
      Placeable base (freeOf items) item ⟨item.library, resolved⟩ := by
  obtain ⟨⟨library, resolved⟩, hp, hplaceable⟩ :=
    exists_right h.placeable hitem
  obtain rfl : library = item.library := hplaceable.library
  obtain ⟨known, hknown, -⟩ := hplaceable.room
  obtain ⟨g, hg⟩ := h.exists_get? hknown
  obtain ⟨-, -, -, hitems⟩ := h.of_get? hg
  exact ⟨g, resolved, hg, hitems ▸ mem_placedIn.2 hp, hplaceable⟩

/-- Whatever is in a group comes from an item of its library. -/
theorem Grouped.exists_source (h : Grouped items base staged groups) {library : String} {g : Group}
    (hg : groups.get? library = some g) {resolved : Item} (hmem : resolved ∈ g.items) :
    ∃ item ∈ members items, item.library = library ∧
      Placeable base (freeOf items) item ⟨library, resolved⟩ := by
  obtain ⟨-, -, -, hitems⟩ := h.of_get? hg
  rw [hitems, mem_placedIn] at hmem
  obtain ⟨item, hitem, hplaceable⟩ := exists_left h.placeable hmem
  exact ⟨item, hitem, hplaceable.library.symm, hplaceable⟩

/-- No two items have the same placement. -/
theorem Grouped.eq_of_placed (h : Grouped items base staged groups) {a b : Item} {p : Placement}
    (ha : a ∈ members items) (hb : b ∈ members items) (hpa : Placeable base (freeOf items) a p)
    (hpb : Placeable base (freeOf items) b p) : a = b :=
  eq_of_related h.placeable h.nodup (fun _ _ _ => Placeable.unique) ha hb hpa hpb

theorem isNamespace_of_ident? {item : Item} {id : Ident} (h : item.ident? = some id) :
    item.isNamespace = false := by
  cases item <;> first | rfl | cases h

/-- A record or an enumeration is known by a path of its own library. -/
theorem library_of_ident? {item : Item} {id : Ident} (h : item.ident? = some id) :
    item.library = libraryOf id.modulePath := by
  cases item <;> cases h <;> rfl

/-- Of one identifier there is one item at most, if there is one at most in the group of its
library. -/
theorem Grouped.eq_of_ident? (h : Grouped items base staged groups) {library : String} {g : Group}
    (hg : groups.get? library = some g) (hsingle : Single g.items) {a b : Item} (ha : a ∈ items)
    (hb : b ∈ items) {id : Ident} (hown : libraryOf id.modulePath = library)
    (hida : a.ident? = some id) (hidb : b.ident? = some id) : a = b := by
  have ha := mem_members.2 ⟨ha, isNamespace_of_ident? hida⟩
  have hb := mem_members.2 ⟨hb, isNamespace_of_ident? hidb⟩
  obtain ⟨g', p, hg', hp, hplaceable⟩ := h.exists_placed ha
  obtain ⟨g'', q, hg'', hq, hplaceable'⟩ := h.exists_placed hb
  rw [library_of_ident? hida, hown] at hg' hplaceable
  rw [library_of_ident? hidb, hown] at hg'' hplaceable'
  obtain rfl := Option.some.inj (hg.symm.trans hg')
  obtain rfl := Option.some.inj (hg.symm.trans hg'')
  have hidp : p.ident? = some id := hplaceable.keeps.ident?.trans hida
  have hidq : q.ident? = some id := hplaceable'.keeps.ident?.trans hidb
  obtain rfl := hsingle p hp q hq id hidp hidq
  exact h.eq_of_placed ha hb hplaceable hplaceable'

/-- Where each group holds one definition of an identifier at most, so do the items. -/
theorem Grouped.single (h : Grouped items base staged groups)
    (hgroups : ∀ library g, groups.get? library = some g → Single g.items) : Single items := by
  intro a ha b hb id hida hidb
  obtain ⟨g, -, hg, -⟩ := h.exists_placed (mem_members.2 ⟨ha, isNamespace_of_ident? hida⟩)
  exact h.eq_of_ident? hg (hgroups _ g hg) ha hb (library_of_ident? hida).symm hida hidb

end Bindery.GroupMap
