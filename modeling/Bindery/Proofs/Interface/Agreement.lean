import Bindery.Proofs.Group.Members
import Bindery.Proofs.Group.Stamps
import Bindery.Proofs.Interface.Queries
/-!
# The stamp on a reference and the answer of the owner

A reference to a record or an enumeration of another library is stamped with what the whole artifact
tells about it. The library that owns the type answers from its own resolved items. The two agree
as long as no walk inside the owner meets a custom type of a third library: the whole artifact looks
into such a type, and the owner does not. So the owner errs on one side only: where it finds no
handle there is none in the whole artifact.
-/
namespace Bindery.GroupMap

open Outcome Reachability Resolution

/-- A reference from a field to a type of the same library. -/
def Near (items : List Item) (source target : Ident) : Prop :=
  Refers items false source target ∧ libraryOf target.modulePath = libraryOf source.modulePath

/-- A record or an enumeration has a field with a custom type of another library. -/
def HoldsForeignCustom (items : List Item) (id : Ident) : Prop :=
  ∃ item ∈ items, item.ident? = some id ∧ ∃ path name builtin,
    libraryOf path ≠ libraryOf id.modulePath ∧ item.Mentions (.custom path name builtin)

/-- A walk inside the library of an identifier leads to a custom type of another library. -/
def MeetsForeignCustom (items : List Item) (id : Ident) : Prop :=
  ∃ target, Relation.ReflTransGen (Near items) id target ∧ HoldsForeignCustom items target

/-- No item mentions a reference that was made before. -/
def Plain (items : List Item) : Prop :=
  ∀ item ∈ items, ∀ ty ∈ item.types, ∀ t ∈ ty.occurrences, Interface.external? t = none

instance (items : List Item) : Decidable (Plain items) := by
  unfold Plain
  infer_instance

variable {items : List Item} {base groups : GroupMap} {staged : List Placement} {owner : String}
  {g : Group} {id : Ident}

/-- Where the items of a library are resolved. -/
abbrev homeOf (items : List Item) (base : GroupMap) (owner : String) : Resolution.Context :=
  ⟨owner, names base, freeOf items⟩

/-- The group of a library has its records and enumerations, resolved, and no others. -/
theorem Grouped.exists_resolved (h : Grouped items base staged groups)
    (hg : groups.get? owner = some g) {item : Item} (hitem : item ∈ items)
    (hid : item.ident? = some id) (hown : libraryOf id.modulePath = owner) :
    ∃ r ∈ g.items, r.ident? = some id ∧ Keeps (homeOf items base owner) item r := by
  have hlibrary : item.library = owner := (library_of_ident? hid).trans hown
  obtain ⟨g', r, hg', hr, hplaceable⟩ :=
    h.exists_placed (mem_members.2 ⟨hitem, isNamespace_of_ident? hid⟩)
  rw [hlibrary] at hg'
  obtain rfl := Option.some.inj (hg.symm.trans hg')
  have hkeeps := hplaceable.keeps
  rw [hlibrary] at hkeeps
  exact ⟨r, hr, hkeeps.ident?.trans hid, hkeeps⟩

/-- A record or an enumeration of a group is the resolved form of one among the items. -/
theorem Grouped.exists_unresolved (h : Grouped items base staged groups)
    (hg : groups.get? owner = some g) {r : Item} (hr : r ∈ g.items) (hid : r.ident? = some id) :
    ∃ item ∈ items, item.ident? = some id ∧ libraryOf id.modulePath = owner ∧
      Keeps (homeOf items base owner) item r := by
  obtain ⟨item, hitem, hlibrary, hplaceable⟩ := h.exists_source hg hr
  have hkeeps := hplaceable.keeps
  have hid' := hkeeps.ident?.symm.trans hid
  rw [hlibrary] at hkeeps
  exact ⟨item, (mem_members.1 hitem).1, hid', (library_of_ident? hid').symm.trans hlibrary, hkeeps⟩

/-- The identifiers that a library knows are its own. -/
theorem Grouped.unknown_of_foreign (h : Grouped items base staged groups)
    (hg : groups.get? owner = some g) (hforeign : libraryOf id.modulePath ≠ owner) :
    ¬ Known g.items id := by
  rintro ⟨r, hr, hid⟩
  obtain ⟨-, -, -, hown, -⟩ := h.exists_unresolved hg hr hid
  exact hforeign hown

theorem mem_types_of_fieldTypes {item : Item} {ty : Ty} (h : ty ∈ item.fieldTypes) :
    ty ∈ item.types := by
  cases item with
  | record r | enumeration e => exact h
  | _ => cases h

/-- Plain items mention no reference to another library. -/
theorem Plain.not_mentions (h : Plain items) {item : Item} (hitem : item ∈ items) (e : External) :
    ¬ item.Mentions (.external e) := by
  intro hmentions
  obtain ⟨ty, hty, hwithin⟩ := (item.mentions_iff_within _).1 hmentions
  exact nomatch h item hitem ty (mem_types_of_fieldTypes hty) (.external e)
    ((Ty.mem_occurrences_iff ..).2 hwithin)

theorem stamp_eq_none {item : Item} (hplain : ∀ e, ¬ item.Mentions (.external e))
    {stamp : Option Bool} (hmem : .target id stamp ∈ item.links) : stamp = none := by
  cases stamp with
  | none => rfl
  | some flag =>
    obtain ⟨e, hmentions, -⟩ := flagged_mem_links hmem
    exact absurd hmentions (hplain e)

/-- Where a group defines an identifier once, every item with that identifier is what declares
it. -/
theorem Grouped.declares_of_single (h : Grouped items base staged groups)
    (hg : groups.get? owner = some g) (hlocal : Single g.items) {item : Item} (hitem : item ∈ items)
    (hid : item.ident? = some id) (hown : libraryOf id.modulePath = owner) :
    Reachability.Declares items id item := by
  obtain ⟨last, hlast⟩ := (exists_declares_iff items id).2 ⟨item, hitem, hid⟩
  obtain ⟨hmem, hid'⟩ := hlast.mem
  rwa [h.eq_of_ident? hg hlocal hitem hmem hown hid hid']

/-- What the owner finds free is free in the whole artifact, and no walk inside the owner leads from
it to a foreign custom type. -/
theorem Grouped.free_of_local (h : Grouped items base staged groups) (hplain : Plain items)
    (hg : groups.get? owner = some g) (hlocal : Single g.items)
    (hfree : Free (Universe.ofItems g.items) true [] id) :
    Free (Universe.ofItems items) false [] id ∧ ¬ MeetsForeignCustom items id := by
  induction hfree with
  | base hid => cases hid
  | @known id links hget hhandle hflag _ ih =>
    obtain ⟨r, hr, rfl⟩ := (get?_ofItems ..).1 hget
    obtain ⟨hr, hidr⟩ := hr.mem
    obtain ⟨item, hitem, hid, hown, hkeeps⟩ := h.exists_unresolved hg hr hidr
    have hdeclares := h.declares_of_single hg hlocal hitem hid hown
    have hclear : Clear (homeOf items base owner) r := by
      refine ⟨hhandle, fun target hforeign hmem => hflag target (some true) hmem ?_⟩
      exact (decidedBy_eq_some_iff ..).2 ⟨rfl, h.unknown_of_foreign hg hforeign, rfl⟩
    have hopen := hkeeps.open_of_clear hclear
    have htarget : ∀ target, .target target none ∈ item.links →
        Free (Universe.ofItems items) false [] target ∧
          (libraryOf target.modulePath = owner → ¬ MeetsForeignCustom items target) := by
      intro target hmem
      by_cases hforeign : libraryOf target.modulePath = owner
      · have hown' : ¬ (homeOf items base owner).IsForeign target.modulePath :=
          fun hf => hf hforeign
        obtain ⟨hfree, hmeets⟩ := ih target none (hkeeps.target_of_clear hclear hown' hmem)
          ((decidedBy_eq_none_iff ..).2 (.inl rfl))
        exact ⟨hfree, fun _ => hmeets⟩
      · exact ⟨(mem_freeOf_iff target).1 (hopen.free target hforeign hmem),
          fun hown' => absurd hown' hforeign⟩
    have hget' := (get?_ofItems ..).2 ⟨item, hdeclares, rfl⟩
    have hplain := hplain.not_mentions hitem
    constructor
    · refine .known hget' hopen.handle ?_ ?_
      · intro target stamp _ hd
        cases ((decidedBy_eq_some_iff ..).1 hd).1
      · intro target stamp hmem _
        obtain rfl := stamp_eq_none hplain hmem
        exact (htarget target hmem).1
    · rintro ⟨last, hwalk, hlast⟩
      rcases Relation.ReflTransGen.cases_head hwalk with rfl | ⟨mid, ⟨hrefers, hnear⟩, hrest⟩
      · obtain ⟨item', hitem', hid', path, name, builtin, hforeign, hmentions⟩ := hlast
        obtain rfl := h.eq_of_ident? hg hlocal hitem hitem' hown hid hid'
        exact hopen.custom path name builtin (hown ▸ hforeign) hmentions
      · obtain ⟨-, links, stamp, hlinks, hmem, -⟩ := (along_iff_refers ..).2 hrefers
        obtain rfl := Option.some.inj (hget'.symm.trans hlinks)
        obtain rfl := stamp_eq_none hplain hmem
        exact (htarget mid hmem).2 (hnear.trans hown) ⟨last, hrest, hlast⟩

/-- Where the whole artifact finds an identifier free, its owner does so too, unless a walk inside
the owner leads to a foreign custom type. -/
theorem Grouped.local_of_free (h : Grouped items base staged groups) (hplain : Plain items)
    (hg : groups.get? owner = some g) (hlocal : Single g.items)
    (hown : libraryOf id.modulePath = owner) (hfree : Free (Universe.ofItems items) false [] id)
    (hmeets : ¬ MeetsForeignCustom items id) : Free (Universe.ofItems g.items) true [] id := by
  induction hfree with
  | base hid => cases hid
  | @known id links hget hhandle _ hrest ih =>
    obtain ⟨item, hdeclares, rfl⟩ := (get?_ofItems ..).1 hget
    obtain ⟨hitem, hid⟩ := hdeclares.mem
    obtain ⟨r, hr, hidr, hkeeps⟩ := h.exists_resolved hg hitem hid hown
    have hopen : Open (homeOf items base owner) item := by
      refine ⟨hhandle, fun path name builtin hforeign hmentions => ?_, fun target _ hmem => ?_⟩
      · exact hmeets ⟨id, .refl, item, hitem, hid, path, name, builtin, hown ▸ hforeign, hmentions⟩
      · exact (mem_freeOf_iff target).2
          (hrest target none hmem ((decidedBy_eq_none_iff ..).2 (.inl rfl)))
    have hplain := hplain.not_mentions hitem
    have hclear := hkeeps.clear_of_open hplain hopen
    refine .known (hlocal.get?_eq_some hr hidr) hclear.handle ?_ ?_
    · intro target stamp hmem hd
      obtain ⟨-, -, rfl⟩ := (decidedBy_eq_some_iff ..).1 hd
      obtain ⟨hforeign, -⟩ | ⟨-, hnone, -⟩ := hkeeps.target_mem hplain hmem
      · exact hclear.stamp target hforeign hmem
      · cases hnone
    · intro target stamp hmem hd
      obtain ⟨hforeign, hstamp⟩ | ⟨hown', -, hmem'⟩ := hkeeps.target_mem hplain hmem
      · have hknown := ((decidedBy_eq_none_iff ..).1 hd).resolve_left hstamp rfl
        exact absurd hknown (h.unknown_of_foreign hg hforeign)
      · have hlibrary : libraryOf target.modulePath = owner := Decidable.not_not.1 hown'
        have hrefers : Refers items false id target :=
          (along_iff_refers ..).1 ⟨List.not_mem_nil, _, none, hget, hmem', rfl⟩
        refine ih target none hmem' rfl hlibrary fun ⟨last, hwalk, hlast⟩ => ?_
        exact hmeets ⟨last, .head ⟨hrefers, hlibrary.trans hown.symm⟩ hwalk, hlast⟩

/-- The answer of the owner in terms of the whole artifact. -/
theorem Grouped.holdsObjects_iff (h : Grouped items base staged groups) (hplain : Plain items)
    (hg : groups.get? owner = some g) {i : Interface}
    (hi : (Interface.empty owner).addGroup g = (i, .ok ())) {target : Item} {asked : Ty}
    (hid : target.ident? = some id) (hasked : Interface.itemTy? target = some asked)
    (hown : libraryOf id.modulePath = owner) :
    i.holdsObjects asked = true ↔ ¬ (id ∈ freeOf items ∧ ¬ MeetsForeignCustom items id) := by
  have hlocal := Interface.single_of_addGroup hi
  have hglobal : id ∈ freeOf items ↔ Free (Universe.ofItems items) false [] id := mem_freeOf_iff id
  rw [Interface.holdsObjects_of_ident? hid hasked, decide_eq_true_iff,
    Interface.mem_freeIdents_of_addGroup hi, hglobal]
  exact not_congr ⟨h.free_of_local hplain hg hlocal,
    fun ⟨hfree, hmeets⟩ => h.local_of_free hplain hg hlocal hown hfree hmeets⟩

/-- A type stands in the signature or a field of an item of a library. -/
def Occurs (items : List Item) (library : String) (t : Ty) : Prop :=
  ∃ item ∈ items, item.library = library ∧ ∃ ty ∈ item.types, t ∈ ty.occurrences

/-- Every reference in a group was made from a type of another library that stands in an item of the
group's own. A record or an enumeration gave it the flag of the whole artifact, an object or a
custom type gave it the flag of a handle. -/
theorem Grouped.exists_written (h : Grouped items base staged groups) (hplain : Plain items)
    (hg : groups.get? owner = some g) {resolved : Item} (hmem : resolved ∈ g.items) {ty : Ty}
    (hty : ty ∈ resolved.types) {e : External} (he : .external e ∈ ty.occurrences) :
    ∃ t, Occurs items owner t ∧
      ((t = .record e.modulePath e.name ∨ t = .enumeration e.modulePath e.name) ∧
          e.holdsObjects = decide (e.ident ∉ freeOf items) ∨
        (t = .object e.modulePath e.name ∨ ∃ builtin, t = .custom e.modulePath e.name builtin) ∧
          e.holdsObjects = true) := by
  obtain ⟨item, hitem, hlibrary, hplaceable⟩ := h.exists_source hg hmem
  obtain ⟨source, hsource, hresolves⟩ := exists_left hplaceable.keeps.types hty
  obtain ⟨t, ht, hbecomes⟩ :=
    (becomes_of_resolveTy hresolves).exists_source ((Ty.mem_occurrences_iff ..).1 he)
  have hitem := (mem_members.1 hitem).1
  have ht := (Ty.mem_occurrences_iff ..).2 ht
  refine ⟨t, ⟨item, hitem, hlibrary, source, hsource, ht⟩, ?_⟩
  cases hbecomes with
  | foreignRecord => exact .inl ⟨.inl rfl, rfl⟩
  | foreignEnumeration => exact .inl ⟨.inr rfl, rfl⟩
  | foreignObject => exact .inr ⟨.inl rfl, rfl⟩
  | foreignCustom => exact .inr ⟨.inr ⟨_, rfl⟩, rfl⟩
  | external => exact nomatch hplain item hitem source hsource _ ht

/-- When the flag of a reference to a record or an enumeration is what the owner answers. One that
was written as a record or an enumeration agrees with the owner unless the whole artifact finds the
target free and a walk inside the owner leads from it to a foreign custom type. One that was written
as an object or as a custom type agrees unless the owner finds the target free. -/
theorem stamp_agrees_iff (hplain : Plain items) (hgroups : ofItems items = .ok groups)
    {library : String} (hg : groups.get? library = some g) {item : Item} (hitem : item ∈ g.items)
    {ty : Ty} (hty : ty ∈ item.types) {e : External} (he : .external e ∈ ty.occurrences)
    {target : Item} (hid : target.ident? = some e.ident) {asked : Ty}
    (hasked : Interface.itemTy? target = some asked) {home : Group} {i : Interface}
    (hhome : groups.get? target.library = some home)
    (hi : (Interface.empty target.library).addGroup home = (i, .ok ())) :
    ∃ t, Occurs items library t ∧
      ((t = .record e.modulePath e.name ∨ t = .enumeration e.modulePath e.name) ∧
          e.holdsObjects = decide (e.ident ∉ freeOf items) ∧
          (e.holdsObjects = i.holdsObjects asked ↔
            ¬ (e.ident ∈ freeOf items ∧ MeetsForeignCustom items e.ident)) ∨
        (t = .object e.modulePath e.name ∨ ∃ builtin, t = .custom e.modulePath e.name builtin) ∧
          e.holdsObjects = true ∧
          (e.holdsObjects = i.holdsObjects asked ↔
            ¬ (e.ident ∈ freeOf items ∧ ¬ MeetsForeignCustom items e.ident))) := by
  obtain ⟨base, staged, h⟩ := Grouped.of_ofItems hgroups
  have hanswer := h.holdsObjects_iff hplain hhome hi hid hasked (library_of_ident? hid).symm
  obtain ⟨t, ht, ⟨hwritten, hflag⟩ | ⟨hwritten, hflag⟩⟩ := h.exists_written hplain hg hitem hty he
  · refine ⟨t, ht, .inl ⟨hwritten, hflag, ?_⟩⟩
    rw [hflag, Bool.eq_iff_iff, hanswer, decide_eq_true_iff]
    by_cases hfree : e.ident ∈ freeOf items <;>
      by_cases hmeets : MeetsForeignCustom items e.ident <;> simp [hfree, hmeets]
  · refine ⟨t, ht, .inr ⟨hwritten, hflag, ?_⟩⟩
    rw [hflag, ← hanswer, eq_comm]

/-- A record of `b` that holds a custom type of `c`. -/
def layeredTarget : Item := .record {
  modulePath := "b", name := "R"
  fields := [⟨"c", .custom "c" "C" (.primitive .string), none, none⟩] }

/-- A record of `a` holds that record. -/
def layeredItems : List Item := [
  .space ⟨"a", "one"⟩, .space ⟨"b", "two"⟩, .space ⟨"c", "three"⟩,
  .custom { modulePath := "c", name := "C", builtin := .primitive .string }, layeredTarget,
  .record { modulePath := "a", name := "P", fields := [⟨"r", .record "b" "R", none, none⟩] }]

def layeredGroups : GroupMap := (ofItems layeredItems).toOption.getD .empty

def layeredGroup (library : String) : Group :=
  (layeredGroups.get? library).getD (.empty ⟨library, ""⟩)

/-- What stands in the record of `a`. -/
def layeredStamp : External := ⟨"two", "b", "R", .dataClass, false, false⟩

def layeredInterface : Interface := ((Interface.empty "b").addGroup (layeredGroup "b")).1

theorem addGroup_layered {library : String} {g : Group} (h : layeredGroups.get? library = some g) :
    ∃ i, (Interface.empty library).addGroup g = (i, .ok ()) := by
  have hall : ∀ entry ∈ layeredGroups.entries,
      ((Interface.empty entry.1).addGroup entry.2).2.toOption = some () := by
    decide
  have hok := toOption_eq_some.1 (hall _ ((layeredGroups.get?_eq_some_iff library g).1 h))
  exact ⟨_, Prod.ext rfl hok⟩

/-- All groups are accepted, and still the reference in `a` is stamped as free of handles while `b`
answers that its record can hold one. -/
theorem stamp_disagrees_layered :
    Plain layeredItems ∧ ofItems layeredItems = .ok layeredGroups ∧
      (∀ library g, layeredGroups.get? library = some g →
        ∃ i, (Interface.empty library).addGroup g = (i, .ok ())) ∧
      (∃ a, layeredGroups.get? "a" = some a ∧ ∃ item ∈ a.items, ∃ ty ∈ item.types,
        .external layeredStamp ∈ ty.occurrences) ∧
      (∃ b, layeredGroups.get? "b" = some b ∧
        (Interface.empty "b").addGroup b = (layeredInterface, .ok ())) ∧
      layeredStamp.ident = ⟨"b", "R"⟩ ∧ layeredStamp.holdsObjects = false ∧
      layeredInterface.holdsObjects (.record "b" "R") = true :=
  ⟨by decide, rfl, fun _ _ => addGroup_layered, ⟨layeredGroup "a", rfl, by decide⟩,
    ⟨layeredGroup "b", rfl, rfl⟩, rfl, rfl, rfl⟩

theorem stamp_agrees_iff_layered :
    ∃ t, Occurs layeredItems "a" t ∧
      ((t = .record "b" "R" ∨ t = .enumeration "b" "R") ∧
          layeredStamp.holdsObjects = decide (⟨"b", "R"⟩ ∉ freeOf layeredItems) ∧
          (layeredStamp.holdsObjects = layeredInterface.holdsObjects (.record "b" "R") ↔
            ¬ (⟨"b", "R"⟩ ∈ freeOf layeredItems ∧ MeetsForeignCustom layeredItems ⟨"b", "R"⟩)) ∨
        (t = .object "b" "R" ∨ ∃ builtin, t = .custom "b" "R" builtin) ∧
          layeredStamp.holdsObjects = true ∧
          (layeredStamp.holdsObjects = layeredInterface.holdsObjects (.record "b" "R") ↔
            ¬ (⟨"b", "R"⟩ ∈ freeOf layeredItems ∧
              ¬ MeetsForeignCustom layeredItems ⟨"b", "R"⟩))) := by
  have hgroups : ofItems layeredItems = .ok layeredGroups := rfl
  have ha : layeredGroups.get? "a" = some (layeredGroup "a") := rfl
  have hitem : Item.record {
      modulePath := "a", name := "P"
      fields := [⟨"r", .external layeredStamp, none, none⟩] } ∈ (layeredGroup "a").items := by
    decide
  have hid : layeredTarget.ident? = some layeredStamp.ident := rfl
  have hasked : Interface.itemTy? layeredTarget = some (.record "b" "R") := rfl
  have hhome : layeredGroups.get? layeredTarget.library = some (layeredGroup "b") := rfl
  have hi : (Interface.empty layeredTarget.library).addGroup (layeredGroup "b") =
      (layeredInterface, .ok ()) := rfl
  exact stamp_agrees_iff (by decide) hgroups ha hitem List.mem_cons_self List.mem_cons_self hid
    hasked hhome hi

/-- A record or an enumeration of which the interface of one library answers that it holds no handle
is free in the whole artifact: no walk along fields, through however many libraries, meets a handle,
an unknown identifier or a cycle. -/
theorem mem_freeOf_of_holdsObjects_eq_false (hplain : Plain items)
    (hgroups : ofItems items = .ok groups) {library : String}
    (hg : groups.get? library = some g) {i : Interface}
    (hi : (Interface.empty library).addGroup g = (i, .ok ())) {target : Item}
    (hid : target.ident? = some id) {asked : Ty} (hasked : Interface.itemTy? target = some asked)
    (hanswer : i.holdsObjects asked = false) :
    id ∈ freeOf items ∧
      ∀ b, Relation.ReflTransGen (Refers items false) id b → ¬ Hazard items false b := by
  obtain ⟨_, _, h⟩ := Grouped.of_ofItems hgroups
  have hfound : id ∈ i.freeIdents := by
    rw [Interface.holdsObjects_of_ident? hid hasked] at hanswer
    exact Decidable.not_not.1 (of_decide_eq_false hanswer)
  have hlocal := (Interface.mem_freeIdents_of_addGroup hi id).1 hfound
  obtain ⟨hfree, -⟩ := h.free_of_local hplain hg (Interface.single_of_addGroup hi) hlocal
  exact ⟨(mem_freeOf_iff id).2 hfree, fun b => not_reaches_hazard_of_free hfree⟩

/-- The record of `a` holds one of `b` that holds a custom type of `c`, and no handle. -/
theorem mem_freeOf_layered :
    ((Interface.empty "a").addGroup (layeredGroup "a")).1.holdsObjects (.record "a" "P") = false ∧
      ⟨"a", "P"⟩ ∈ freeOf layeredItems ∧
      ∀ b, Relation.ReflTransGen (Refers layeredItems false) ⟨"a", "P"⟩ b →
        ¬ Hazard layeredItems false b := by
  have hgroups : ofItems layeredItems = .ok layeredGroups := rfl
  have ha : layeredGroups.get? "a" = some (layeredGroup "a") := rfl
  have hi : (Interface.empty "a").addGroup (layeredGroup "a") =
      (((Interface.empty "a").addGroup (layeredGroup "a")).1, .ok ()) := rfl
  have hid : (Item.record {
      modulePath := "a", name := "P"
      fields := [⟨"r", .external layeredStamp, none, none⟩] }).ident? = some ⟨"a", "P"⟩ := rfl
  have hanswer : ((Interface.empty "a").addGroup (layeredGroup "a")).1.holdsObjects
      (.record "a" "P") = false := rfl
  exact ⟨hanswer,
    mem_freeOf_of_holdsObjects_eq_false (by decide) hgroups ha hi hid rfl hanswer⟩

end Bindery.GroupMap
