import Bindery.Description
import Bindery.Proofs.Config.Section
import Bindery.Proofs.Interface.Faults
import Bindery.Proofs.Interface.Merge
/-!
# Descriptions are faithful and canonical

The description of an interface holds all that the interface holds: to add the listed items to a new
interface gives the same tables. And it depends on nothing else, so that interfaces which hold the
same have one description. Only an index that is too long to be written keeps an interface with a
public name from having one.
-/
namespace Bindery

open Json Outcome

namespace Interface

variable {i i' : Interface}

/-- The listed definitions of a state are added to a new interface, which then holds the same. -/
theorem WellFormed.rebuild (h : i.WellFormed) (library : String) :
    ∃ rebuilt, (empty library).addItems i.sortedItems = (rebuilt, .ok ()) ∧
      ∀ slot, rebuilt.at? slot = i.at? slot := by
  have hmem : ∀ item, item ∈ i.sortedItems ↔ item ∈ i.items := fun item => Item.mem_sorted
  have hempty : ∀ item, item ∉ (empty library).items := by
    simp [Interface.mem_items_iff, at?_empty]
  have hcoherent : Coherent ((empty library).items ++ i.sortedItems) :=
    h.coherent.congr fun item _ _ => by simp [hempty, hmem]
  obtain ⟨rebuilt, hadded⟩ :=
    (wellFormed_empty library).exists_addItems hcoherent (Item.pairwise_rank_sorted i.items)
  have henters := entersAll_of_addItems hadded
  refine ⟨rebuilt, hadded, fun slot => Option.ext fun item => ?_⟩
  constructor
  · intro hat
    obtain hold | ⟨hitem, hslot⟩ := henters.source slot item hat
    · simp [at?_empty] at hold
    · exact (h.mem_items_iff hslot).1 ((hmem item).1 hitem)
  · intro hat
    have hslot := h.keyed slot item hat
    exact henters.entered item ((hmem item).2 ((h.mem_items_iff hslot).2 hat)) slot hslot

/-- States with the same definitions list them in one order. -/
theorem WellFormed.sortedItems_eq (h : i.WellFormed) (h' : i'.WellFormed)
    (hitems : ∀ item, item ∈ i.items ↔ item ∈ i'.items) : i.sortedItems = i'.sortedItems :=
  Item.sorted_eq_of_perm
    ((List.perm_ext_iff_of_nodup h.nodup_items h'.nodup_items).2 hitems)

theorem externalNamespaces_congr (h : i.sortedItems = i'.sortedItems) :
    i.externalNamespaces = i'.externalNamespaces := by
  rw [externalNamespaces, externalNamespaces, externals, externals, types, types, h]

end Interface

namespace Description

variable {i i' : Interface} {s s' : Section} {name : String}

/-- The members of a description as they are written. -/
def membersJson (s : Section) (i : Interface) (name : String) : List (String × Json) := [
  ("format", .str "ubind-interface"),
  ("version", .int 0),
  ("crate_name", .str i.library),
  ("namespace", .str name),
  ("namespace_docstring", ofText? i.docstring),
  ("config", s.toJson),
  ("external_namespaces", texts i.externalNamespaces),
  ("items", Item.listToJson i.sortedItems)]

/-- No key of a description comes twice. -/
theorem nodup_keys_membersJson (s : Section) (i : Interface) (name : String) :
    ((membersJson s i name).map Prod.fst).Nodup := by
  simp [membersJson]

/-- A document that says what an interface and its settings hold. A reader of its items that adds
them one after the other to a new interface gets the tables of the first one. -/
structure Describes (members : List (String × Json)) (s : Section) (i : Interface) : Prop where
  library : member? members "crate_name" = some (.str i.library)
  space : ∃ name, i.space = some name ∧ member? members "namespace" = some (.str name)
  docstring : member? members "namespace_docstring" = some (ofText? i.docstring)
  settings : ∃ config, member? members "config" = some config ∧
    ∀ other : Section, other.toJson.sortMembers = config ↔ other.Same s
  items : ∃ elements items rebuilt, member? members "items" = some (.arr elements) ∧
    elements.mapM Item.ofJson = .ok items ∧
    (Interface.empty i.library).addItems items = (rebuilt, .ok ()) ∧
    ∀ slot, rebuilt.at? slot = i.at? slot

/-- The members of a description say what the interface holds, in every order. -/
theorem describes_sortedMembers (h : i.WellFormed) (hspace : i.space = some name) :
    Describes (sortedMembers (membersJson s i name)) s i := by
  obtain ⟨rebuilt, hadded, hat⟩ := h.rebuild i.library
  have hread : (i.sortedItems.map fun item => item.toJson.sortMembers).mapM Item.ofJson =
      .ok i.sortedItems := mapM_map_eq_ok fun item _ => item.ofJson_toJson
  exact {
    library := by simp [membersJson]
    space := ⟨name, hspace, by simp [membersJson]⟩
    docstring := by simp [membersJson]
    settings := ⟨s.toJson.sortMembers, by simp [membersJson],
      fun _ => Section.sortMembers_toJson_iff⟩
    items := ⟨_, i.sortedItems, rebuilt,
      by simp [membersJson, Item.listToJson, Function.comp_def], hread, hadded, hat⟩ }

theorem canonical_line : (toJson s i name).canonical ++ "\n" = String.ofList
    (compact escapeChar (.obj (sortedMembers (membersJson s i name))) ++ ['\n']) := by
  rw [String.ofList_append, ← sortMembers_obj]
  rfl

/-- A description is the canonical text of its members on one line, unless an integer is too
long. -/
theorem render_eq (hspace : i.space = some name) : render s i =
    if (toJson s i name).isWritable then .ok (String.ofList
      (compact escapeChar (.obj (sortedMembers (membersJson s i name))) ++ ['\n']))
    else .error (i.fault (.unwritable .longInteger)) := by
  rw [← canonical_line, render, Interface.namespaceName_eq_ok.2 hspace, ok_bind, canonicalText]
  cases (toJson s i name).isWritable <;> rfl

theorem render_nameless (hspace : i.space = none) :
    render s i = .error (i.fault .noNamespace) := by
  rw [render, Interface.namespaceName, hspace]
  rfl

theorem legible_membersJson {floats : Decimal.Binary64 → Prop}
    (h : ∀ item ∈ i.items, item.HasShortIndex) :
    Legible floats (.obj (membersJson s i name)) := by
  have hitems : Legible floats (Item.listToJson i.sortedItems) := by
    refine .arr fun j hj => ?_
    obtain ⟨item, hitem, rfl⟩ := List.mem_map.1 hj
    exact Item.legible_toJson (h item (Item.mem_sorted.1 hitem))
  have hspaces : Legible floats (texts i.externalNamespaces) := by
    refine .arr fun j hj => ?_
    obtain ⟨space, -, rfl⟩ := List.mem_map.1 hj
    exact .str space
  have hversion : Legible floats (.int 0) := .int (Nat.pow_pos (by decide))
  exact .obj (nodup_keys_membersJson s i name) (by
    simp [membersJson, Legible.str, hversion, legible_ofText?, s.legible_toJson, hspaces, hitems])

/-- An index that is too long is the one thing that keeps a description from being written. -/
theorem isWritable_toJson_iff :
    (toJson s i name).isWritable = true ↔ ∀ item ∈ i.items, item.HasShortIndex := by
  constructor
  · intro h item hitem
    have hlisted : ("items", Item.listToJson i.sortedItems) ∈ membersJson s i name := by
      simp [membersJson]
    have hentry : item.toJson ∈ i.sortedItems.map Item.toJson :=
      List.mem_map_of_mem (Item.mem_sorted.2 hitem)
    exact Item.isWritable_toJson_iff.1 (isWritable_iff.2 fun n hn =>
      isShort_of_isWritable (.obj hlisted (.arr hentry hn)) h)
  · intro h
    have hlegible : Legible (fun _ => False) (toJson s i name) := legible_membersJson h
    exact hlegible.isWritable

theorem render_short (hspace : i.space = some name) (h : ∀ item ∈ i.items, item.HasShortIndex) :
    render s i = .ok (String.ofList
      (compact escapeChar (.obj (sortedMembers (membersJson s i name))) ++ ['\n'])) := by
  rw [render_eq hspace, if_pos (isWritable_toJson_iff.2 h)]

/-- An interface with an index that is too long has no description. -/
theorem render_long (hspace : i.space = some name) {item : Item} (hitem : item ∈ i.items)
    (hlong : ¬ item.HasShortIndex) : render s i = .error (i.fault (.unwritable .longInteger)) := by
  rw [render_eq hspace, if_neg fun h => hlong (isWritable_toJson_iff.1 h item hitem)]

/-- There is a description exactly if there is a public name and every index is short enough. -/
theorem exists_render_iff : (∃ text, render s i = .ok text) ↔
    (∃ name, i.space = some name) ∧ ∀ item ∈ i.items, item.HasShortIndex := by
  cases hspace : i.space with
  | none => simp [render_nameless hspace]
  | some name =>
    have hwritable : (toJson s i name).isWritable = true ↔ _ := isWritable_toJson_iff
    rw [render_eq hspace, ← hwritable]
    split <;> simp [*]

theorem parseChars_short (h : ∀ item ∈ i.items, item.HasShortIndex) :
    parseChars (compact escapeChar (.obj (sortedMembers (membersJson s i name))) ++ ['\n']) =
      .ok (.obj (sortedMembers (membersJson s i name))) := by
  have hlegible : Legible (fun _ => False) (.obj (sortedMembers (membersJson s i name))) := by
    rw [← sortMembers_obj]
    exact (legible_membersJson h).sortMembers
  cases hlegible with
  | obj hkeys hvalues =>
    exact parseChars_line hkeys fun m hm => (hvalues m hm).readable fun _ hx => hx.elim

/-- Interfaces that hold the same have the same description. -/
theorem render_congr (hi : i.WellFormed) (hi' : i'.WellFormed) (hlibrary : i.library = i'.library)
    (hspace : i.space = i'.space) (hdocstring : i.docstring = i'.docstring)
    (hitems : ∀ item, item ∈ i.items ↔ item ∈ i'.items) (hs : s.Same s') :
    render s i = render s' i' := by
  have hsorted := hi.sortedItems_eq hi' hitems
  have hspaces := Interface.externalNamespaces_congr hsorted
  have hsettings := Section.sortMembers_toJson_iff.2 hs
  have hmembers : ∀ name, sortedMembers (membersJson s i name) =
      sortedMembers (membersJson s' i' name) := by
    intro name
    simp [sortedMembers, sortValues_eq, membersJson, hlibrary, hdocstring, hsettings, hspaces,
      hsorted]
  cases hname : i.space with
  | some name =>
    have hname' := hspace.symm.trans hname
    have hshort : (toJson s i name).isWritable = (toJson s' i' name).isWritable := by
      rw [Bool.eq_iff_iff, isWritable_toJson_iff, isWritable_toJson_iff]
      simp only [hitems]
    rw [render_eq hname, render_eq hname', hmembers, hshort, Interface.fault, Interface.fault,
      hlibrary]
  | none =>
    have hname' := hspace.symm.trans hname
    rw [render_nameless hname, render_nameless hname', Interface.fault, Interface.fault, hlibrary]

/-- One description is that of one library. -/
theorem library_of_render {text : String} (h : render s i = .ok text)
    (h' : render s' i' = .ok text) : i.library = i'.library := by
  obtain ⟨⟨name, hspace⟩, hshort⟩ := exists_render_iff.1 ⟨text, h⟩
  obtain ⟨⟨name', hspace'⟩, hshort'⟩ := exists_render_iff.1 ⟨text, h'⟩
  rw [render_short hspace hshort, ← h', render_short hspace' hshort', Except.ok.injEq,
    String.ofList_inj] at h
  have hread : parseChars (compact escapeChar (.obj (sortedMembers (membersJson s i name))) ++
      ['\n']) = .ok (.obj (sortedMembers (membersJson s i name))) := parseChars_short hshort
  rw [h, parseChars_short hshort'] at hread
  have hmembers := Json.obj.inj (Except.ok.inj hread)
  have hlibraries := congrArg (member? · "crate_name") hmembers
  simpa [membersJson, eq_comm] using hlibraries

/-- Whatever an interface with a public name has been through: unless a trait method has an index of
more digits than the limit, it has a description with any settings, which is read back and says what
both hold; rebuilt from it, the interface has the same tables, name and docstring. With such an
index there is no description. And it does not depend on how the interface came about: two of one
library that hold the same have one description with settings that say the same. -/
theorem render_faithful_canonical {library : String} (calls : List Interface.Call)
    (hi : (Interface.empty library).after calls = i) (s : Section) :
    (∀ name, i.space = some name →
      ((∀ item ∈ i.items, item.HasShortIndex) → ∃ text members, render s i = .ok text ∧
        parse text = .ok (.obj members) ∧ Describes members s i) ∧
      ((∃ item ∈ i.items, ¬ item.HasShortIndex) →
        render s i = .error (i.fault (.unwritable .longInteger)))) ∧
    ∀ (calls' : List Interface.Call) (i' : Interface) (s' : Section),
      (Interface.empty library).after calls' = i' → i.space = i'.space →
      i.docstring = i'.docstring → (∀ item, item ∈ i.items ↔ item ∈ i'.items) → s.Same s' →
        render s i = render s' i' := by
  subst hi
  have hwell := Interface.wellFormed_after library calls
  constructor
  · intro name hspace
    refine ⟨fun hshort => ?_, fun ⟨item, hitem, hlong⟩ => render_long hspace hitem hlong⟩
    refine ⟨_, _, render_short hspace hshort, ?_, describes_sortedMembers hwell hspace⟩
    rw [parse, String.toList_ofList]
    exact parseChars_short hshort
  · rintro calls' i' s' rfl hspace hdocstring hitems hs
    have hlibrary := (Interface.grows_after (Interface.empty library) calls).library.trans
      (Interface.grows_after (Interface.empty library) calls').library.symm
    exact render_congr hwell (Interface.wellFormed_after library calls') hlibrary hspace hdocstring
      hitems hs

/-- A callback interface with one method of a given index. -/
def indexedCalls (index : Int) : List Interface.Call := [
  .group { space := ⟨"a", "one"⟩, items := [] },
  .item (.callback { modulePath := "a", name := "C" }),
  .item (.traitMethod { modulePath := "a", owner := "C", index, name := "f" })]

/-- The method is added with an index of one digit too many, and then there is no description. -/
theorem render_longIndex :
    ∃ i, (Interface.empty "a").after (indexedCalls (10 ^ maxDigits : Nat)) = i ∧
      i.space = some "one" ∧
        render { language := "json" } i = .error (i.fault (.unwritable .longInteger)) := by
  have hcalls : ∀ index : Int, ∃ i, (Interface.empty "a").after (indexedCalls index) = i ∧
      i.space = some "one" ∧
        .traitMethod { modulePath := "a", owner := "C", index, name := "f" } ∈ i.items :=
    fun index => ⟨_, rfl, rfl, List.mem_append_right _ (List.mem_singleton.2 rfl)⟩
  obtain ⟨i, hi, hspace, hitem⟩ := hcalls (10 ^ maxDigits : Nat)
  refine ⟨i, hi, hspace, render_long hspace hitem fun hshort => ?_⟩
  rw [Item.HasShortIndex, IsShort, Int.natAbs_natCast] at hshort
  exact Nat.lt_irrefl _ hshort

/-- An object with a method, and a record that refers to another library. -/
def describedItems : List Item := [
  .object { modulePath := "a", name := "O" },
  .method { modulePath := "a", owner := "O", name := "f" },
  .record {
    modulePath := "a", name := "R"
    fields := [⟨"e", .external ⟨"two", "b", "E", .dataClass, false, true⟩, none, none⟩] }]

def describedGroup : Group := { space := ⟨"a", "one"⟩, items := describedItems, nodup := by decide }

/-- The same definitions one by one, after a method that came too early. -/
def laterCalls : List Interface.Call :=
  [1, 0, 2, 1].flatMap fun place => describedItems[place]?.toList.map .item

def describedSettings : Section where
  language := "json"
  renames := .ofList [("O", "P"), ("R", "S")]

def laterSettings : Section where
  language := "json"
  renames := .ofList [("R", "S"), ("O", "P")]

theorem render_laterCalls :
    let described := (Interface.empty "a").after [.group describedGroup]
    let later := (Interface.empty "a").after
      (laterCalls ++ [.group { space := ⟨"a", "one"⟩, items := [] }])
    (∃ text members, render describedSettings described = .ok text ∧
      Describes members describedSettings described ∧ parse text = .ok (.obj members)) ∧
      render describedSettings described = render laterSettings later := by
  intro described later
  have hlaw := render_faithful_canonical [.group describedGroup] (rfl : _ = described)
    describedSettings
  have hperm : described.items.Perm later.items := by decide +kernel
  have hall : described.items.Perm describedItems := by decide +kernel
  have hshort : ∀ item ∈ described.items, item.HasShortIndex := by
    intro item hitem
    have hitem := hall.mem_iff.1 hitem
    simp only [describedItems, List.mem_cons, List.not_mem_nil, or_false] at hitem
    rcases hitem with rfl | rfl | rfl <;> trivial
  have hsame : describedSettings.Same laterSettings :=
    ⟨rfl, rfl, rfl, rfl, fun _ => rfl, Table.perm_entries_iff.1 (by decide)⟩
  obtain ⟨text, members, hrender, hparse, hdescribes⟩ :=
    (hlaw.1 "one" (by decide +kernel)).1 hshort
  refine ⟨⟨text, members, hrender, hdescribes, hparse⟩, ?_⟩
  exact hlaw.2 _ later laterSettings rfl (by decide +kernel) (by decide +kernel)
    (fun _ => hperm.mem_iff) hsame

end Description
end Bindery
