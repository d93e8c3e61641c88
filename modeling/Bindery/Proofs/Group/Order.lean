import Bindery.Proofs.Group.Basic
import Bindery.Proofs.Order
import Mathlib.Data.List.Perm.Basic
/-!
# Grouping in another order

Items in another order come into groups that differ in nothing but the order of their items, when
the same identifiers are free. In the order of their libraries the groups go in pairs.
-/
namespace Bindery.GroupMap

open Outcome

theorem Placeable.congr {base base' : GroupMap} {free free' : List Ident}
    (hbase : ∀ library, base.get? library = base'.get? library)
    (hfree : ∀ id, id ∈ free ↔ id ∈ free') {item : Item} {p : Placement}
    (h : Placeable base free item p) : Placeable base' free' item p where
  library := h.library
  resolved := by
    have hnames : ∀ other, (names base').get? other = (names base).get? other := by
      intro other
      simp only [names, Table.get?_map, hbase]
    rw [Resolution.resolve_congr hnames fun id => (hfree id).symm]
    exact h.resolved
  room := by
    obtain ⟨g, hg, hitem⟩ := h.room
    exact ⟨g, by rw [← hbase, hg], hitem⟩

/-- Two groups that differ at most in the order of their items. -/
structure SameGroup (g g' : Group) : Prop where
  space : g.space = g'.space
  docstring : g.docstring = g'.docstring
  items : g.items.Perm g'.items

/-- Two group maps that differ at most in the order of libraries and of items. -/
def Same (groups groups' : GroupMap) : Prop :=
  ∀ library, Option.Rel SameGroup (groups.get? library) (groups'.get? library)

/-- The order in which namespaces are declared does not matter. -/
theorem declares_perm {spaces spaces' : List Namespace} (h : spaces.Perm spaces')
    {base : GroupMap} (hbase : Declares spaces base) : Declares spaces' base := by
  intro library g
  rw [hbase library g]
  simp only [h.mem_iff]

theorem Declares.get?_eq {spaces : List Namespace} {base base' : GroupMap}
    (h : Declares spaces base) (h' : Declares spaces base') (library : String) :
    base.get? library = base'.get? library := by
  apply Option.ext
  intro g
  rw [h library g, h' library g]

/-- Placements in another order make the same groups. -/
theorem same_of_places {base base' groups groups' : GroupMap} {staged staged' : List Placement}
    (hbase : ∀ library, base.get? library = base'.get? library) (hstaged : staged.Perm staged')
    (h : Places base staged groups) (h' : Places base' staged' groups') :
    Same groups groups' := by
  intro library
  have hfirst := h library
  have hsecond := h' library
  rw [← hbase] at hsecond
  cases hget : base.get? library with
  | none =>
    rw [hget] at hfirst hsecond
    rw [Option.map_eq_none_iff.1 hfirst, Option.map_eq_none_iff.1 hsecond]
    exact .none
  | some known =>
    rw [hget] at hfirst hsecond
    obtain ⟨g, hg, hshown⟩ := Option.map_eq_some_iff.1 hfirst
    obtain ⟨g', hg', hshown'⟩ := Option.map_eq_some_iff.1 hsecond
    rw [hg, hg']
    simp only [shown, Prod.mk.injEq] at hshown hshown'
    refine .some ⟨hshown.1.trans hshown'.1.symm, hshown.2.1.trans hshown'.2.1.symm, ?_⟩
    rw [hshown.2.2, hshown'.2.2]
    exact ((hstaged.filter _).map _).append_left _

/-- Items in another order are grouped alike when the same of them are free. -/
theorem Grouped.perm {items items' : List Item} {base groups : GroupMap}
    {staged : List Placement} (h : Grouped items base staged groups) (hperm : items.Perm items')
    (hfree : ∀ id, id ∈ freeOf items ↔ id ∈ freeOf items') :
    ∃ groups', ofItems items' = .ok groups' ∧ Same groups groups' := by
  have hspaces := hperm.filterMap declaration?
  have hconsistent : Consistent (items'.filterMap declaration?) :=
    (declares_perm hspaces h.declares).consistent
  obtain ⟨base', hbase'⟩ := exists_of_consistent _ hconsistent
  have hget := (declares_perm hspaces h.declares).get?_eq (declares_of_foldlM _ hbase')
  obtain ⟨staged', hplaceable', hstaged⟩ :=
    List.perm_comp_forall₂ (hperm.symm.filter _) h.placeable
  have hplaceable : List.Forall₂ (Placeable base' (freeOf items')) (members items') staged' :=
    hplaceable'.imp fun _ _ hp => hp.congr hget hfree
  obtain ⟨groups', hgroups', hplaces'⟩ :=
    exists_ofItems hbase' hplaceable (hstaged.nodup_iff.2 h.nodup)
  exact ⟨groups', hgroups', same_of_places hget hstaged.symm h.places hplaces'⟩

variable {groups groups' : GroupMap}

theorem SameGroup.symm {g g' : Group} (h : SameGroup g g') : SameGroup g' g :=
  ⟨h.space.symm, h.docstring.symm, h.items.symm⟩

theorem Same.get?_eq_some (h : Same groups groups') {library : String} {g : Group}
    (hget : groups.get? library = some g) :
    ∃ g', groups'.get? library = some g' ∧ SameGroup g g' := by
  have hsame := h library
  rw [hget] at hsame
  cases hget' : groups'.get? library with
  | none => simp [hget'] at hsame
  | some g' =>
    rw [hget'] at hsame
    exact ⟨g', rfl, Option.rel_some_some.1 hsame⟩

theorem Same.symm (h : Same groups groups') : Same groups' groups := by
  intro library
  have hsame := h library
  cases hget : groups.get? library <;> cases hget' : groups'.get? library <;>
    simp_all [SameGroup.symm]

theorem Same.names (h : Same groups groups') (library : String) :
    (names groups).get? library = (names groups').get? library := by
  simp only [GroupMap.names, Table.get?_map]
  cases hget : groups.get? library with
  | none =>
    cases hget' : groups'.get? library with
    | none => rfl
    | some g' =>
      obtain ⟨g, hg, -⟩ := h.symm.get?_eq_some hget'
      simp [hget] at hg
  | some g =>
    obtain ⟨g', hget', hgroup⟩ := h.get?_eq_some hget
    simp [hget', hgroup.space]

/-- The group of a library among other groups. -/
def counterpart (groups' : GroupMap) (entry : String × Group) : String × Group :=
  (entry.1, (groups'.get? entry.1).getD entry.2)

theorem Same.counterpart_spec (h : Same groups groups') {entry : String × Group}
    (hentry : entry ∈ groups.entries) :
    groups'.counterpart entry ∈ groups'.entries ∧
      SameGroup entry.2 (groups'.counterpart entry).2 := by
  obtain ⟨g', hget', hgroup⟩ := h.get?_eq_some ((groups.get?_eq_some_iff _ _).2 hentry)
  simp only [counterpart, hget', Option.getD_some]
  exact ⟨(groups'.get?_eq_some_iff ..).1 hget', hgroup⟩

theorem nodup_counterpart (groups groups' : GroupMap) :
    ((groups.entries.map groups'.counterpart).map Prod.fst).Nodup := by
  simpa [Function.comp_def, counterpart] using groups.nodup

/-- Group maps that are the same list the same groups. -/
theorem Same.perm_entries (h : Same groups groups') :
    (groups.entries.map groups'.counterpart).Perm groups'.entries := by
  refine (List.perm_ext_iff_of_nodup (.of_map _ (nodup_counterpart groups groups'))
    (.of_map _ groups'.nodup)).2 fun entry' => ?_
  constructor
  · intro hmem
    obtain ⟨entry, hentry, rfl⟩ := List.mem_map.1 hmem
    exact (h.counterpart_spec hentry).1
  · intro hmem
    have hget' := (groups'.get?_eq_some_iff entry'.1 entry'.2).2 hmem
    obtain ⟨g, hget, -⟩ := h.symm.get?_eq_some hget'
    refine List.mem_map.2 ⟨(entry'.1, g), (groups.get?_eq_some_iff ..).1 hget, ?_⟩
    simp [counterpart, hget']

/-- In the order of their libraries the groups go in pairs. -/
theorem Same.sorted (h : Same groups groups') :
    List.Forall₂ (fun entry entry' => entry.1 = entry'.1 ∧ SameGroup entry.2 entry'.2)
      groups.sorted groups'.sorted := by
  have hsorted : groups'.sorted = groups.sorted.map groups'.counterpart := by
    rw [GroupMap.sorted, ← Order.sortBy_eq_of_perm h.perm_entries]
    · exact Order.sortBy_map (fun _ _ => rfl) _
    · intro a ha b hb hab
      exact List.inj_on_of_nodup_map (nodup_counterpart groups groups') ha hb
        (Order.eq_of_compareText hab)
  rw [hsorted, List.forall₂_map_right_iff, List.forall₂_same]
  exact fun entry hentry => ⟨rfl, (h.counterpart_spec (Order.mem_sortBy.1 hentry)).2⟩

end Bindery.GroupMap
