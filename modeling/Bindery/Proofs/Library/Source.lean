import Bindery.Library.Source
import Bindery.Proofs.Artifact.Foreign
import Bindery.Proofs.Group.Members
import Bindery.Proofs.Group.Order
import Bindery.Proofs.Interface.Basic
import Bindery.Proofs.Library.Extraction
import Bindery.Writer
/-!
# Sources do not depend on the order of the items

Two runs over the items of an image in two orders. As long as one of them goes on so does the other,
and at every step they hold the same, or groups that differ in the order of their items only. A
group is used through its sorted items alone.
-/
namespace Bindery.Library

open Artifact GroupMap Outcome

/-- Two trees with the same files, except that an image may hold something else in the other one. -/
abbrev AlikeButImages : FileTree → FileTree → Prop :=
  FileTree.AlikeBut fun content => isImage content = true

variable {t t' : FileTree} {g g' : Group}

theorem sortedItems_eq (h : SameGroup g g') : g.sortedItems = g'.sortedItems :=
  Item.sorted_eq_of_perm h.items

/-- An interface is put together alike from groups with the same items. -/
theorem assemble_eq (h : SameGroup g g') (library : String) (legacy : Option Group) :
    assemble library legacy g = assemble library legacy g' := by
  have hadd : ∀ i : Interface, i.addGroup g = i.addGroup g' := by
    intro i
    unfold Interface.addGroup
    rw [Group.library, Group.library, h.space, h.docstring, sortedItems_eq h]
  cases legacy with
  | none => simp [assemble, Interface.addGroups, hadd]
  | some legacy => simp [assemble, Interface.addGroups, hadd]

theorem legacyFile?_eq (htree : AlikeButImages t t') (h : SameGroup g g') (library : String)
    (root : Option Path) : legacyFile? t library root g = legacyFile? t' library root g' := by
  have hmarkers : g.legacyMarkers = g'.legacyMarkers := by
    rw [Group.legacyMarkers, sortedItems_eq h, ← Group.legacyMarkers]
  have hdeclared : declaredLegacy? library root g = declaredLegacy? library root g' := by
    rw [declaredLegacy?, hmarkers, ← declaredLegacy?]
  rw [legacyFile?, hdeclared, legacyFile?]
  simp only [htree.isFile_eq]

theorem legacyText_eq_ok {library : String} {file : Path} {text : List Char} :
    legacyText t library file = .ok text ↔ t.readText file = .ok text := by
  unfold legacyText
  cases t.readText file with
  | ok found => simp
  | error fault => cases fault <;> simp

/-- A legacy file that is read in one tree reads the same in the other. -/
theorem legacyText_eq (htree : AlikeButImages t t') {library : String} {file : Path}
    {text : List Char} {read : Group} (htext : legacyText t library file = .ok text)
    (hread : Legacy.read library text = .ok read) : legacyText t' library file = .ok text := by
  obtain hsame | ⟨c, rest, rfl, hc⟩ := htree.readText_eq (legacyText_eq_ok.1 htext)
  · exact legacyText_eq_ok.2 hsame
  · obtain ⟨fault, hfault⟩ := Legacy.read_of_startsImage hc library rest
    rw [hfault] at hread
    cases hread

theorem readSettings_eq (htree : AlikeButImages t t') {languages : List String} {file : Path}
    {config : Config} (h : readSettings t languages file = .ok config) :
    readSettings t' languages file = .ok config := by
  obtain ⟨text, htext, hrest⟩ := bind_eq_ok.1 h
  obtain hsame | ⟨c, rest, rfl, hc⟩ := htree.readText_eq (mapError_eq_ok.1 htext)
  · exact bind_eq_ok.2 ⟨text, mapError_eq_ok.2 hsame, hrest⟩
  · obtain ⟨json, hjson, -⟩ := bind_eq_ok.1 hrest
    obtain ⟨fault, hfault⟩ := Json.parseChars_of_startsImage hc rest
    rw [mapError_eq_ok, hfault] at hjson
    cases hjson

theorem settings_eq (htree : AlikeButImages t t') {languages : List String}
    {choice : SettingsChoice} {root : Option Path} {config : Config}
    (h : settings t languages choice root = .ok config) :
    settings t' languages choice root = .ok config := by
  have hfile : settingsFile? t choice root = settingsFile? t' choice root := by
    unfold settingsFile?
    simp only [htree.isFile_eq]
  unfold settings at h ⊢
  rw [← hfile]
  split at h
  · cases h
  · exact h
  · exact mapError_eq_ok.2 (readSettings_eq htree (mapError_eq_ok.1 h))

theorem configure_eq (htree : AlikeButImages t t') {ctx : Context} {library : String}
    {i : Interface} {config : Config} (h : configure t ctx library i = .ok config) :
    configure t' ctx library i = .ok config := by
  unfold configure at h ⊢
  cases hsettings : settings t ctx.languages ctx.config (ctx.roots.get? library) with
  | error failure => simp [hsettings] at h
  | ok found =>
    rw [hsettings] at h
    rw [settings_eq htree hsettings]
    exact h

variable {groups groups' : GroupMap} {free free' : List Ident}

theorem resolveGroup_eq (hgroups : Same groups groups') (hfree : ∀ id, id ∈ free ↔ id ∈ free') :
    resolveGroup groups free = resolveGroup groups' free' := by
  have hadd : addResolved groups free = addResolved groups' free' := by
    funext group item
    rw [addResolved, addResolved, Resolution.resolve_congr hgroups.names hfree]
  funext group
  rw [resolveGroup, resolveGroup, hadd]

/-- A legacy file is read alike with groups that are the same. -/
theorem readLegacy_eq (htree : AlikeButImages t t') (hgroups : Same groups groups')
    (hfree : ∀ id, id ∈ free ↔ id ∈ free') {library : String} {file : Path} {legacy : Group}
    (h : (readLegacy t library file groups free).outcome = .ok legacy) :
    (readLegacy t' library file groups' free').outcome = .ok legacy := by
  simp only [readLegacy, Traced.outcome_bind, Traced.outcome_ofExcept] at h ⊢
  obtain ⟨text, htext, hrest⟩ := bind_eq_ok.1 h
  obtain ⟨read, hread, hresolve⟩ := bind_eq_ok.1 hrest
  rw [legacyText_eq htree htext (mapError_eq_ok.1 hread), ok_bind, hread, ok_bind,
    ← resolveGroup_eq hgroups hfree]
  exact hresolve

theorem legacyGroup_eq (htree : AlikeButImages t t') (hgroups : Same groups groups')
    (hfree : ∀ id, id ∈ free ↔ id ∈ free') (hgroup : SameGroup g g') {library : String}
    {root : Option Path} {legacy : Option Group}
    (h : (legacyGroup t library root groups free g).outcome = .ok legacy) :
    (legacyGroup t' library root groups' free' g').outcome = .ok legacy := by
  unfold legacyGroup at h ⊢
  rw [← legacyFile?_eq htree hgroup]
  split at h
  · cases h
  · exact h
  · rw [map_eq_pure_bind, Traced.outcome_bind] at h ⊢
    obtain ⟨read, hread, hend⟩ := bind_eq_ok.1 h
    rw [readLegacy_eq htree hgroups hfree hread]
    exact hend

/-- A source is made alike from groups that are the same. -/
theorem source_eq (htree : AlikeButImages t t') (hgroups : Same groups groups')
    (hfree : ∀ id, id ∈ free ↔ id ∈ free') {ctx : Context} {entry entry' : String × Group}
    (hlibrary : entry.1 = entry'.1) (hgroup : SameGroup entry.2 entry'.2) {s : Source}
    (h : (source t ctx groups free entry).outcome = .ok s) :
    (source t' ctx groups' free' entry').outcome = .ok s := by
  simp only [source, Traced.outcome_bind, Traced.outcome_ofExcept, ← hlibrary] at h ⊢
  obtain ⟨legacy, hlegacy, hrest⟩ := bind_eq_ok.1 h
  obtain ⟨i, hi, hrest⟩ := bind_eq_ok.1 hrest
  obtain ⟨config, hconfig, hend⟩ := bind_eq_ok.1 hrest
  rw [legacyGroup_eq htree hgroups hfree hgroup hlegacy, ok_bind, ← assemble_eq hgroup, hi, ok_bind,
    configure_eq htree hconfig, ok_bind]
  exact hend

theorem outcome_mapM {α β : Type} (f : α → Traced β) (xs : List α) :
    (xs.mapM f).outcome = xs.mapM fun x => (f x).outcome := by
  induction xs with
  | nil => rfl
  | cons x xs ih =>
    simp only [List.mapM_cons, Traced.outcome_bind, ih, Traced.outcome_pure, pure_eq]

theorem group_eq_ok {items : List Item} {groups : GroupMap} :
    (group items).outcome = .ok groups ↔ ofItems items = .ok groups := by
  unfold group
  cases ofItems items <;> simp [Traced.fail]

/-- A source has the name of its group. -/
theorem library_of_source {ctx : Context} {entry : String × Group} {s : Source}
    (h : (source t ctx groups free entry).outcome = .ok s) : s.library = entry.1 := by
  simp only [source, Traced.outcome_bind, Traced.outcome_ofExcept] at h
  obtain ⟨_, -, h⟩ := bind_eq_ok.1 h
  obtain ⟨_, -, h⟩ := bind_eq_ok.1 h
  obtain ⟨_, -, h⟩ := bind_eq_ok.1 h
  obtain rfl := Except.ok.inj h
  rfl

/-- The sources of a library file are those of its groups. -/
theorem sources_eq_ok {ctx : Context} {library : Path} {found : List Source} :
    (sources t ctx library).outcome = .ok found ↔ ∃ items groups,
      (extract t library).outcome = .ok items ∧ ofItems items = .ok groups ∧
        List.Forall₂ (fun entry s => (source t ctx groups (Reachability.freeIdents items false)
          entry).outcome = .ok s) groups.sorted found := by
  simp only [sources, sourcesOfItems, Traced.outcome_bind, outcome_mapM, Traced.outcome_pure]
  constructor
  · intro h
    obtain ⟨items, hitems, h⟩ := bind_eq_ok.1 h
    obtain ⟨_, hfound, h⟩ := bind_eq_ok.1 h
    obtain ⟨groups, hgroups, hfound⟩ := bind_eq_ok.1 hfound
    obtain rfl : _ = found := Except.ok.inj h
    exact ⟨items, groups, hitems, group_eq_ok.1 hgroups, mapM_eq_ok.1 hfound⟩
  · rintro ⟨items, groups, hitems, hgroups, hfound⟩
    rw [hitems, ok_bind, group_eq_ok.2 hgroups, ok_bind, mapM_eq_ok.2 hfound]
    rfl

/-- Every library has one source. -/
theorem nodup_libraries {ctx : Context} {library : Path} {found : List Source}
    (h : (sources t ctx library).outcome = .ok found) : (found.map Source.library).Nodup := by
  obtain ⟨items, groups, -, -, hfound⟩ := sources_eq_ok.1 h
  have hlibraries := map_eq_of_related hfound (f := Prod.fst) (g := Source.library)
    fun entry s hs => (library_of_source hs).symm
  rw [← hlibraries]
  exact ((Order.perm_sortBy _ groups.entries).map Prod.fst).nodup_iff.2 groups.nodup

/-- An interface takes no group with two definitions of one identifier. -/
theorem single_of_assemble {library : String} {legacy : Option Group} {i : Interface}
    (h : assemble library legacy g = .ok i) : Reachability.Single g.items := by
  have hall := Interface.entersAll_of_addGroups (mapError_eq_ok.1 h)
  intro a ha b hb id hida hidb
  exact hall.eq_of_ident? (Interface.oneKind_empty library) (by simp [ha]) (by simp [hb]) hida hidb

/-- Where all sources are found, no identifier has two definitions: in one library the interface
refuses them, and one identifier belongs to one library. -/
theorem single_of_sources {ctx : Context} {items : List Item} {found : List Source}
    (hgroups : ofItems items = .ok groups)
    (h : groups.sorted.mapM (fun entry => (source t ctx groups free entry).outcome) = .ok found) :
    Reachability.Single items := by
  obtain ⟨base, staged, hgrouped⟩ := Grouped.of_ofItems hgroups
  refine hgrouped.single fun library g hg => ?_
  have hentry : (library, g) ∈ groups.sorted :=
    Order.mem_sortBy.2 ((groups.get?_eq_some_iff library g).1 hg)
  obtain ⟨s, -, hs⟩ := exists_right (mapM_eq_ok.1 h) hentry
  simp only [source, Traced.outcome_bind, Traced.outcome_ofExcept] at hs
  obtain ⟨legacy, -, hrest⟩ := bind_eq_ok.1 hs
  obtain ⟨i, hi, -⟩ := bind_eq_ok.1 hrest
  exact single_of_assemble hi

/-- Items in another order make the same sources. -/
theorem sourcesOfItems_perm (htree : AlikeButImages t t') {ctx : Context} {items items' : List Item}
    (hperm : items.Perm items') {found : List Source}
    (h : (sourcesOfItems t ctx items).outcome = .ok found) :
    (sourcesOfItems t' ctx items').outcome = .ok found := by
  simp only [sourcesOfItems, Traced.outcome_bind, outcome_mapM] at h ⊢
  obtain ⟨groups, hgroups, hfound⟩ := bind_eq_ok.1 h
  rw [group_eq_ok] at hgroups
  have hsingle := single_of_sources hgroups hfound
  have hfree : ∀ id, id ∈ freeOf items ↔ id ∈ freeOf items' := hsingle.mem_freeIdents_perm hperm
  obtain ⟨base, staged, hgrouped⟩ := Grouped.of_ofItems hgroups
  obtain ⟨groups', hgroups', hsame⟩ := hgrouped.perm hperm hfree
  rw [group_eq_ok.2 hgroups', ok_bind]
  exact mapM_of_related hsame.sorted
    (fun _ _ _ hentry hs => source_eq htree hsame hfree hentry.1 hentry.2 hs) hfound

/-- What a run over an image finds, it finds over an image with the same items in another order. -/
theorem sources_of_perm {t₁ t₂ : FileTree} {library : Path} {magic magic' : List UInt8}
    {items items' : List Item} {ctx : Context} (hmagic : magic ∈ imageMagics)
    (hmagic' : magic' ∈ imageMagics) (hperm : items.Perm items')
    (hsize : ∀ item ∈ items, (Frame.payload item).length < 2 ^ 32)
    (h₁ : t.store library (image magic items) = (t₁, .ok ()))
    (h₂ : t.store library (image magic' items') = (t₂, .ok ())) {found : List Source}
    (h : (sources t₁ ctx library).outcome = .ok found) :
    (sources t₂ ctx library).outcome = .ok found := by
  have htree : AlikeButImages t₁ t₂ :=
    FileTree.alikeBut_of_store h₁ h₂ (isImage_image hmagic items) (isImage_image hmagic' items')
  simp only [sources, Traced.outcome_bind] at h ⊢
  obtain ⟨read, hread, hrest⟩ := bind_eq_ok.1 h
  obtain ⟨found', hfound, hend⟩ := bind_eq_ok.1 hrest
  obtain ⟨hall, hne⟩ := (extract_eq_ok hmagic hsize h₁).1 hread
  obtain ⟨read', hall', hread'⟩ := List.perm_comp_forall₂ hperm.symm (mapM_eq_ok.1 hall)
  have hne' : read' ≠ [] := by
    rintro rfl
    exact hne hread'.symm.eq_nil
  have hextract : (extract t₂ library).outcome = .ok read' :=
    (extract_eq_ok hmagic' (fun item h => hsize item (hperm.mem_iff.2 h)) h₂).2
      ⟨mapM_eq_ok.2 hall', hne'⟩
  rw [hextract, ok_bind, sourcesOfItems_perm htree hread'.symm hfound]
  exact hend

/-- What a writer makes of sources, in their order. -/
def rendered (w : Writer) (found : List Source) : List (Except Interface.Fault String) :=
  found.map fun s => w.render (s.config.sectionFor w.language) s.interface

/-- Two orders of the items of an image yield the same sources, or none for both, and every writer
makes the same of them. -/
theorem sources_perm {t t₁ t₂ : FileTree} {library : Path} {magic magic' : List UInt8}
    {items items' : List Item} (ctx : Context) (hmagic : magic ∈ imageMagics)
    (hmagic' : magic' ∈ imageMagics) (hperm : items.Perm items')
    (hsize : ∀ item ∈ items, (Frame.payload item).length < 2 ^ 32)
    (h₁ : t.store library (image magic items) = (t₁, .ok ()))
    (h₂ : t.store library (image magic' items') = (t₂, .ok ())) :
    (sources t₁ ctx library).outcome.toOption = (sources t₂ ctx library).outcome.toOption ∧
      ∀ w : Writer, (sources t₁ ctx library).outcome.toOption.map (rendered w) =
        (sources t₂ ctx library).outcome.toOption.map (rendered w) := by
  have hsize' : ∀ item ∈ items', (Frame.payload item).length < 2 ^ 32 :=
    fun item h => hsize item (hperm.mem_iff.2 h)
  have hsources : (sources t₁ ctx library).outcome.toOption =
      (sources t₂ ctx library).outcome.toOption := by
    apply Option.ext
    intro found
    rw [toOption_eq_some, toOption_eq_some]
    exact ⟨sources_of_perm hmagic hmagic' hperm hsize h₁ h₂,
      sources_of_perm hmagic' hmagic hperm.symm hsize' h₂ h₁⟩
  exact ⟨hsources, fun w => by rw [hsources]⟩

/-- A library whose record another one holds in a field. -/
def linkedItems : List Item := [
  .space ⟨"a", "one"⟩, .space ⟨"b", "two"⟩,
  .record { modulePath := "a", name := "P", fields := [⟨"r", .record "b" "R", none, none⟩] },
  .record { modulePath := "b", name := "R", fields := [⟨"n", .primitive .u8, none, none⟩] }]

theorem sources_linkedItems :
    ∃ t₁ t₂, FileTree.store {} ⟨"", ["lib.so"]⟩ (image elfMagic linkedItems) = (t₁, .ok ()) ∧
      FileTree.store {} ⟨"", ["lib.so"]⟩ (image elfMagic linkedItems.reverse) = (t₂, .ok ()) ∧
      ((sourcesOfItems t₁ {} linkedItems).outcome.toOption.map List.length) = some 2 ∧
      (sources t₁ {} ⟨"", ["lib.so"]⟩).outcome.toOption =
        (sources t₂ {} ⟨"", ["lib.so"]⟩).outcome.toOption := by
  have hsize : ∀ item ∈ linkedItems, (Frame.payload item).length < 2 ^ 32 := by
    decide +kernel
  have hstore : FileTree.store {} ⟨"", ["lib.so"]⟩ (image elfMagic linkedItems) =
      (FileTree.put {} ["lib.so"] (.file (image elfMagic linkedItems)), .ok ()) := rfl
  have hstore' : FileTree.store {} ⟨"", ["lib.so"]⟩ (image elfMagic linkedItems.reverse) =
      (FileTree.put {} ["lib.so"] (.file (image elfMagic linkedItems.reverse)), .ok ()) := rfl
  have helf : elfMagic ∈ imageMagics := by decide
  exact ⟨_, _, hstore, hstore', rfl,
    (sources_perm {} helf helf linkedItems.reverse_perm.symm hsize hstore hstore').1⟩

end Bindery.Library
