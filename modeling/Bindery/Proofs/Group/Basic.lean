import Bindery.Group.Basic
import Bindery.Proofs.Group.Resolution
import Mathlib.Data.List.Induction
import Mathlib.Data.List.Nodup
/-!
# What grouping does

Each of the three passes over the items is described by what it ends with: the declared libraries,
the placements of the resolved items, and the groups that hold them.
-/
namespace Bindery

open Outcome

/-- Items are added as long as none of them is there already. -/
theorem Group.addAll_eq_ok_iff {g g' : Group} {items : List Item} :
    g.addAll items = .ok g' ↔
      g'.space = g.space ∧ g'.docstring = g.docstring ∧ g'.items = g.items ++ items := by
  induction items generalizing g with
  | nil =>
    obtain ⟨space, docstring, items, nodup⟩ := g
    obtain ⟨space', docstring', items', nodup'⟩ := g'
    simp [Group.addAll, eq_comm]
  | cons item items ih =>
    rw [Group.addAll, List.foldlM_cons, Group.add]
    split
    · rename_i hmem
      refine iff_of_false (by simp) ?_
      rintro ⟨-, -, hadded⟩
      have hnodup := hadded ▸ g'.nodup
      exact (List.nodup_append.1 hnodup).2.2 item hmem item List.mem_cons_self rfl
    · rw [ok_bind, ← Group.addAll, ih, List.append_assoc]
      rfl

namespace GroupMap

/-- The groups are those of the declared libraries, still without items. -/
def Declares (spaces : List Namespace) (groups : GroupMap) : Prop :=
  ∀ library g, groups.get? library = some g ↔
    ∃ n ∈ spaces, n.library = library ∧ g = Group.empty n

/-- No library has two public names. -/
def Consistent (spaces : List Namespace) : Prop :=
  ∀ n ∈ spaces, ∀ n' ∈ spaces, n.library = n'.library → n = n'

/-- Namespaces that are declared by a group map give no library two names. -/
theorem Declares.consistent {spaces : List Namespace} {groups : GroupMap}
    (h : Declares spaces groups) : Consistent spaces := by
  intro n hn n' hn' hlibrary
  have hfirst := (h n.library _).2 ⟨n, hn, rfl, rfl⟩
  have hsecond := (h n.library _).2 ⟨n', hn', hlibrary.symm, rfl⟩
  exact congrArg Group.space (Option.some.inj (hfirst.symm.trans hsecond))

/-- To register a namespace declares one more. -/
theorem register_declares {spaces : List Namespace} {groups registered : GroupMap} {n : Namespace}
    (hgroups : Declares spaces groups) (h : groups.register n = .ok registered) :
    Declares (spaces ++ [n]) registered := by
  unfold register at h
  cases hget : groups.get? n.library with
  | none =>
    simp only [hget, Except.ok.injEq] at h
    subst h
    intro library g
    rw [Table.get?_insert]
    by_cases hlib : library = n.library
    · have hnone : ∀ m ∈ spaces, m.library ≠ n.library := by
        intro m hm hmn
        have := (hgroups n.library _).2 ⟨m, hm, hmn, rfl⟩
        simp [hget] at this
      subst hlib
      simp only [if_true, Option.some.injEq, List.mem_append, List.mem_singleton]
      constructor
      · rintro rfl
        exact ⟨n, .inr rfl, rfl, rfl⟩
      · rintro ⟨m, hm | rfl, hmn, rfl⟩
        · exact absurd hmn (hnone m hm)
        · rfl
    · rw [if_neg hlib, hgroups library g]
      simp only [List.mem_append, List.mem_singleton]
      constructor
      · rintro ⟨m, hm, hmn, rfl⟩
        exact ⟨m, .inl hm, hmn, rfl⟩
      · rintro ⟨m, hm | rfl, hmn, rfl⟩
        · exact ⟨m, hm, hmn, rfl⟩
        · exact absurd hmn.symm hlib
  | some known =>
    simp only [hget] at h
    split at h
    · rename_i hname
      obtain rfl := Except.ok.inj h
      obtain ⟨m, hm, hmn, rfl⟩ := (hgroups n.library known).1 hget
      have hsame : m = n := by
        obtain ⟨_, _⟩ := m
        obtain ⟨_, _⟩ := n
        simp_all [Group.empty]
      intro library g
      rw [hgroups library g]
      simp only [List.mem_append, List.mem_singleton]
      constructor
      · rintro ⟨k, hk, hkn, rfl⟩
        exact ⟨k, .inl hk, hkn, rfl⟩
      · rintro ⟨k, hk | rfl, hkn, rfl⟩
        · exact ⟨k, hk, hkn, rfl⟩
        · exact ⟨m, hm, hsame ▸ hkn, by rw [hsame]⟩
    · cases h

theorem declares_of_foldlM (spaces : List Namespace) {groups : GroupMap}
    (h : spaces.foldlM register Table.empty = .ok groups) : Declares spaces groups := by
  induction spaces using List.reverseRecOn generalizing groups with
  | nil =>
    obtain rfl := Except.ok.inj h
    simp [Declares]
  | append_singleton spaces n ih =>
    rw [List.foldlM_append] at h
    obtain ⟨before, hbefore, hlast⟩ := bind_eq_ok.1 h
    obtain ⟨after, hafter, hend⟩ := bind_eq_ok.1 hlast
    obtain rfl := Except.ok.inj hend
    exact register_declares (ih hbefore) hafter

/-- Namespaces that give no library two names can be registered. -/
theorem exists_of_consistent (spaces : List Namespace) (h : Consistent spaces) :
    ∃ groups, spaces.foldlM register Table.empty = .ok groups := by
  induction spaces using List.reverseRecOn with
  | nil => exact ⟨_, rfl⟩
  | append_singleton spaces n ih =>
    obtain ⟨before, hbefore⟩ := ih fun m hm m' hm' =>
      h m (List.mem_append_left _ hm) m' (List.mem_append_left _ hm')
    have hlast : ∃ after, before.register n = .ok after := by
      unfold register
      cases hget : before.get? n.library with
      | none => exact ⟨_, rfl⟩
      | some known =>
        obtain ⟨m, hm, hmn, rfl⟩ := (declares_of_foldlM spaces hbefore n.library known).1 hget
        obtain rfl := h m (List.mem_append_left _ hm) n (by simp) hmn
        exact ⟨before, by simp [Group.empty]⟩
    obtain ⟨after, hafter⟩ := hlast
    exact ⟨after, by simp [List.foldlM_append, hbefore, hafter]⟩

/-- The items that join a group. -/
def members (items : List Item) : List Item := items.filter fun item => !item.isNamespace

/-- An item has a placement: it can be resolved, and the group of its library has room for it. -/
structure Placeable (groups : GroupMap) (free : List Ident) (item : Item) (p : Placement) :
    Prop where
  library : p.library = item.library
  resolved : Resolution.resolve groups.names free item = .ok p.item
  room : ∃ g, groups.get? p.library = some g ∧ p.item ∉ g.items

/-- A member is staged at its placement, unless that is there already. -/
theorem stageItem_eq_ok {groups : GroupMap} {free : List Ident} {staged after : List Placement}
    {item : Item} (hitem : item.isNamespace = false) :
    groups.stageItem free staged item = .ok after ↔
      ∃ p, Placeable groups free item p ∧ p ∉ staged ∧ after = staged ++ [p] := by
  unfold stageItem
  rw [hitem, if_neg (by simp)]
  cases hget : groups.get? item.library with
  | none =>
    simp only [reduceCtorEq, false_iff]
    rintro ⟨⟨library, resolved⟩, ⟨rfl, -, g, hg, -⟩, -⟩
    simp [hget] at hg
  | some group =>
    cases hresolve : Resolution.resolve groups.names free item with
    | error fault =>
      simp only [reduceCtorEq, false_iff]
      rintro ⟨p, ⟨-, hp, -⟩, -⟩
      simp [hresolve] at hp
    | ok resolved =>
      simp only
      constructor
      · intro h
        split at h
        · cases h
        · rename_i hroom
          rw [not_or] at hroom
          exact ⟨⟨item.library, resolved⟩, ⟨rfl, hresolve, group, hget, hroom.1⟩, hroom.2,
            (Except.ok.inj h).symm⟩
      · rintro ⟨⟨library, other⟩, ⟨rfl, hp, g, hg, hroom⟩, hnew, rfl⟩
        obtain rfl := Except.ok.inj (hresolve.symm.trans hp)
        obtain rfl := Option.some.inj (hget.symm.trans hg)
        rw [if_neg (not_or.2 ⟨hroom, hnew⟩)]

theorem foldlM_stageItem_eq_ok {groups : GroupMap} {free : List Ident} (items : List Item)
    {staged after : List Placement} (hstaged : staged.Nodup) :
    items.foldlM (groups.stageItem free) staged = .ok after ↔
      ∃ more, List.Forall₂ (Placeable groups free) (members items) more ∧
        after = staged ++ more ∧ after.Nodup := by
  induction items generalizing staged with
  | nil =>
    simp only [List.foldlM_nil, pure_eq, Except.ok.injEq, members, List.filter_nil,
      List.forall₂_nil_left_iff, exists_eq_left, List.append_nil]
    exact ⟨fun h => ⟨h.symm, h ▸ hstaged⟩, fun h => h.1.symm⟩
  | cons item items ih =>
    rw [List.foldlM_cons, bind_eq_ok]
    cases hitem : item.isNamespace with
    | true =>
      have hskip : groups.stageItem free staged item = .ok staged := by
        simp [stageItem, hitem]
      simp only [hskip, Except.ok.injEq, exists_eq_left', ih hstaged, members, List.filter_cons,
        hitem, Bool.not_true, Bool.false_eq_true, if_false]
    | false =>
      simp only [stageItem_eq_ok hitem, members, List.filter_cons, hitem, Bool.not_false, if_true,
        List.forall₂_cons_left_iff]
      constructor
      · rintro ⟨next, ⟨p, hp, hnew, rfl⟩, hrest⟩
        have hnext : (staged ++ [p]).Nodup := List.nodup_middle.2 (by simp [hnew, hstaged])
        obtain ⟨more, hmore, rfl, hnodup⟩ := (ih hnext).1 hrest
        exact ⟨p :: more, ⟨p, more, hp, hmore, rfl⟩, by simp, hnodup⟩
      · rintro ⟨_, ⟨p, more, hp, hmore, rfl⟩, rfl, hnodup⟩
        have hnew : p ∉ staged := fun hmem =>
          (List.nodup_append.1 hnodup).2.2 p hmem p List.mem_cons_self rfl
        have hnext : (staged ++ [p]).Nodup := List.nodup_middle.2 (by simp [hnew, hstaged])
        exact ⟨staged ++ [p], ⟨p, hp, hnew, rfl⟩, (ih hnext).2 ⟨more, hmore, by simp, hnodup⟩⟩

/-- Items are staged exactly if each member has a placement and no two have the same. -/
theorem stage_eq_ok {groups : GroupMap} {free : List Ident} {items : List Item}
    {staged : List Placement} :
    groups.stage free items = .ok staged ↔
      List.Forall₂ (Placeable groups free) (members items) staged ∧ staged.Nodup := by
  rw [stage, foldlM_stageItem_eq_ok items List.nodup_nil]
  simp

/-- What is placed in the group of a library, in order. -/
def placedIn (library : String) (staged : List Placement) : List Item :=
  (staged.filter fun p => p.library = library).map Placement.item

/-- What can be seen of a group. -/
def shown (g : Group) : Namespace × Option String × List Item := (g.space, g.docstring, g.items)

/-- The groups after the placements: each holds what was placed in it behind what it held. -/
def Places (groups : GroupMap) (staged : List Placement) (placed : GroupMap) : Prop :=
  ∀ library, (placed.get? library).map shown =
    (groups.get? library).map fun g => (g.space, g.docstring, g.items ++ placedIn library staged)

/-- Placements for which there is room find their place. -/
theorem exists_placeAll {groups : GroupMap} {staged : List Placement} (hnodup : staged.Nodup)
    (hroom : ∀ p ∈ staged, ∃ g, groups.get? p.library = some g ∧ p.item ∉ g.items) :
    ∃ placed, groups.placeAll staged = (placed, .ok ()) ∧ Places groups staged placed := by
  induction staged generalizing groups with
  | nil =>
    refine ⟨groups, rfl, fun library => ?_⟩
    simp only [placedIn, List.filter_nil, List.map_nil, List.append_nil]
    rfl
  | cons p staged ih =>
    obtain ⟨g, hg, hitem⟩ := hroom p List.mem_cons_self
    obtain ⟨hp, hstaged⟩ := List.nodup_cons.1 hnodup
    have hplace : groups.place p = .ok (groups.insert p.library
        ⟨g.space, g.docstring, g.items ++ [p.item], Group.nodup_append_new g.nodup hitem⟩) := by
      simp [place, hg, Group.add, hitem]
    have hnext : ∀ q ∈ staged, ∃ g', (groups.insert p.library
        ⟨g.space, g.docstring, g.items ++ [p.item], Group.nodup_append_new g.nodup hitem⟩).get?
          q.library = some g' ∧ q.item ∉ g'.items := by
      intro q hq
      obtain ⟨g', hg', hitem'⟩ := hroom q (List.mem_cons_of_mem _ hq)
      rw [Table.get?_insert]
      by_cases hlib : q.library = p.library
      · rw [if_pos hlib]
        refine ⟨_, rfl, ?_⟩
        obtain rfl := Option.some.inj (hg.symm.trans (hlib ▸ hg'))
        have hne : q.item ≠ p.item := by
          intro e
          obtain ⟨_, _⟩ := p
          obtain ⟨_, _⟩ := q
          simp_all
        simp [hitem', hne]
      · rw [if_neg hlib]
        exact ⟨g', hg', hitem'⟩
    obtain ⟨placed, hall, hplaced⟩ := ih hstaged hnext
    refine ⟨placed, by simp [placeAll, hplace, hall], fun library => ?_⟩
    rw [hplaced library, Table.get?_insert]
    by_cases hlib : library = p.library
    · simp [hlib, hg, placedIn]
    · have hlib' : p.library ≠ library := fun e => hlib e.symm
      simp [hlib, hlib', placedIn]

/-- Staged items find their places. -/
theorem places_of_stage {groups : GroupMap} {free : List Ident} {items : List Item}
    {staged : List Placement} (h : groups.stage free items = .ok staged) :
    ∃ placed, groups.placeAll staged = (placed, .ok ()) ∧ Places groups staged placed := by
  obtain ⟨hplaceable, hnodup⟩ := stage_eq_ok.1 h
  refine exists_placeAll hnodup fun p hp => ?_
  obtain ⟨item, -, hitem⟩ := exists_left hplaceable hp
  exact hitem.room

/-- The reference-free identifiers that grouping asks about. -/
abbrev freeOf (items : List Item) : List Ident := Reachability.freeIdents items false

/-- How grouping ended well: the empty groups of the declared libraries, the placements in the
order of the items, and the groups that hold them. -/
structure Grouped (items : List Item) (base : GroupMap) (staged : List Placement)
    (groups : GroupMap) : Prop where
  declares : Declares (items.filterMap declaration?) base
  placeable : List.Forall₂ (Placeable base (freeOf items)) (members items) staged
  nodup : staged.Nodup
  places : Places base staged groups

/-- Groups come from declared namespaces and from staged placements. -/
theorem Grouped.of_ofItems {items : List Item} {groups : GroupMap}
    (h : ofItems items = .ok groups) :
    ∃ base staged, Grouped items base staged groups := by
  unfold ofItems at h
  split at h
  · cases h
  · rename_i base hbase
    unfold assign at h
    cases hstage : base.stage (freeOf items) items with
    | error fault => simp [hstage] at h
    | ok staged =>
      obtain ⟨hplaceable, hnodup⟩ := stage_eq_ok.1 hstage
      obtain ⟨placed, hall, hplaces⟩ := places_of_stage hstage
      simp only [hstage, hall, Except.ok.injEq] at h
      subst h
      exact ⟨base, staged, declares_of_foldlM _ hbase, hplaceable, hnodup, hplaces⟩

/-- Grouping ends well when every item has a placement of its own. -/
theorem exists_ofItems {items : List Item} {base : GroupMap} {staged : List Placement}
    (hbase : create items = .ok base)
    (hplaceable : List.Forall₂ (Placeable base (freeOf items)) (members items) staged)
    (hnodup : staged.Nodup) : ∃ groups, ofItems items = .ok groups ∧ Places base staged groups := by
  have hstage : base.stage (freeOf items) items = .ok staged := stage_eq_ok.2 ⟨hplaceable, hnodup⟩
  obtain ⟨placed, hall, hplaces⟩ := places_of_stage hstage
  refine ⟨placed, ?_, hplaces⟩
  simp [ofItems, hbase, assign, hstage, hall]

end GroupMap

end Bindery
