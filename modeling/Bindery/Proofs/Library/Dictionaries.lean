import Bindery.Proofs.Group.Visits
import Bindery.Proofs.Legacy.Translation
import Bindery.Proofs.Library.Faults
import Bindery.Proofs.Stub.Layout
/-!
# From dictionaries to records

A dictionary of a legacy file is a record of every interface that the file was added to. The fields
of the record are those of the dictionary, in their order and with their defaults, whether the types
of the file were resolved on the way or not; a string stays a string.
-/
namespace Bindery.Library

open Legacy (Definition FieldDecl TypeExpr Word parseFile)
open Outcome
open Resolution (resolvedTy)

/-- The types `string` and `string?`, what they stand for and how they are annotated. -/
inductive StringType : TypeExpr → Ty → String → Prop where
  | required {w : Word} : w.text = "string" →
      StringType (.named w) (.primitive .string) "str"
  | optional {w : Word} : w.text = "string" →
      StringType (.optional (.named w)) (.optional (.primitive .string)) "typing.Optional[str]"

/-- A field has the name and the default of its declaration, and its type if that is a string. -/
structure Declares (decl : FieldDecl) (f : Field) : Prop where
  name : f.name = decl.name.text
  default : Legacy.defaultText decl.default = .ok f.default
  ty : ∀ ty written, StringType decl.type ty written → f.ty = ty

/-- A record has the name and the fields of a dictionary. -/
structure Represents (d : Definition) (decls : List FieldDecl) (r : Record) : Prop where
  name : r.name = d.name.text
  plain : r.docstring = none
  fields : List.Forall₂ Declares decls r.fields

/-- Each dictionary of a file is one of some records. -/
def HasRecords (file : Legacy.File) (present : Record → Prop) : Prop :=
  ∀ d ∈ file, ∀ decls, d.body = .dictionary decls → ∃ r, present r ∧ Represents d decls r

variable {type : TypeExpr} {ty : Ty} {written : String}

theorem StringType.tyOf (h : StringType type ty written) (declared : Legacy.Declared) :
    Legacy.tyOf declared type = .ok ty := by
  cases h with
  | required hw | optional hw =>
    have hstring : Primitive.ofSpelling? "string" = some .string := by decide
    simp [Legacy.tyOf, hw, hstring]

theorem StringType.resolvedTy (h : StringType type ty written) (ctx : Resolution.Context) :
    resolvedTy ctx ty = ty := by
  cases h <;> rfl

/-- A string type asks for a text. -/
theorem StringType.requiredTy (h : StringType type ty written) :
    Stub.Value.requiredTy ty = .primitive .string := by
  cases h <;> rfl

theorem StringType.text (h : StringType type ty written) (s : Section) :
    (Stub.Annotation.ofTy s ty).text = written := by
  cases h <;> rfl

theorem declares_of_gives {s : Legacy.Scope} {decl : FieldDecl} {f : Field}
    (h : Legacy.GivesField s decl f) : Declares decl f where
  name := h.name
  default := h.default
  ty _ _ htype := Except.ok.inj (h.ty.symm.trans (htype.tyOf s.declared))

/-- A record is that of a dictionary also when its types are resolved. -/
theorem Represents.resolved {d : Definition} {decls : List FieldDecl} {r : Record}
    (h : Represents d decls r) (ctx : Resolution.Context) :
    Represents d decls { r with fields := r.fields.map (Field.mapType (resolvedTy ctx)) } where
  name := h.name
  plain := h.plain
  fields := by
    refine List.forall₂_map_right_iff.2 (h.fields.imp fun decl f hf => ?_)
    refine ⟨hf.name, hf.default, fun ty written htype => ?_⟩
    rw [Field.mapType, hf.ty ty written htype, htype.resolvedTy]

variable {groups : GroupMap} {free : List Ident} {library : String} {text : List Char}

/-- A group that the text of a legacy file describes, as it is read or as it is resolved against the
groups of some artifact. -/
inductive Describes (library : String) (text : List Char) (g : Group) : Prop where
  | read (h : Legacy.read library text = .ok g)
  | resolved (read : Group) (groups : GroupMap) (free : List Ident)
      (h : Legacy.read library text = .ok read) (hresolve : resolveGroup groups free read = .ok g)

theorem items_of_add {g g' : Group} {item : Item} (h : g.add item = .ok g') :
    g'.items = g.items ++ [item] := by
  unfold Group.add at h
  split at h
  · cases h
  · obtain rfl := Except.ok.inj h
    rfl

/-- The items that are added to a group are resolved one by one. -/
theorem items_of_foldlM {items : List Item} {g g' : Group}
    (h : items.foldlM (addResolved groups free) g = .ok g') :
    ∃ resolved, List.Forall₂ (fun item r => Resolution.resolve groups.names free item = .ok r)
      items resolved ∧ g'.items = g.items ++ resolved := by
  induction items generalizing g with
  | nil =>
    obtain rfl := Except.ok.inj h
    exact ⟨[], .nil, by simp⟩
  | cons item items ih =>
    rw [List.foldlM_cons] at h
    obtain ⟨added, hadded, h⟩ := bind_eq_ok.1 h
    obtain ⟨resolved, hall, hitems⟩ := ih h
    unfold addResolved at hadded
    split at hadded
    · cases hadded
    · rename_i r hr
      have hlast := items_of_add (mapError_eq_ok.1 hadded)
      exact ⟨r :: resolved, .cons hr hall, by rw [hitems, hlast]; simp⟩

/-- The group of a file has a record for each of its dictionaries. -/
theorem hasRecords_of_read {g : Group} (h : Legacy.read library text = .ok g) :
    ∃ file, parseFile text = .ok file ∧ HasRecords file (.record · ∈ g.items) := by
  obtain ⟨file, s, hfile, htranslates⟩ := Legacy.translates_of_read h
  refine ⟨file, hfile, fun d hd decls hbody => ?_⟩
  have hentries : Legacy.Entry.type d ∈ d.entries := by
    rw [Definition.entries, hbody]
    exact List.mem_cons_self
  have hentry : Legacy.Entry.type d ∈ Legacy.heldEntries file.entries :=
    List.mem_filter.2 ⟨List.mem_append_right _ (List.mem_flatMap.2 ⟨d, hd, hentries⟩), rfl⟩
  obtain ⟨item, hitem, hgives⟩ := exists_right htranslates.items hentry
  cases hgives with
  | record hbody' hfields =>
    cases hbody.symm.trans hbody'
    exact ⟨_, hitem, rfl, rfl, hfields.imp fun _ _ => declares_of_gives⟩
  | enumeration hbody' | variants hbody' | object hbody' | callback hbody' | custom hbody' =>
    cases hbody.symm.trans hbody'

theorem hasRecords_of_describes {g : Group} (h : Describes library text g) :
    ∃ file, parseFile text = .ok file ∧ HasRecords file (.record · ∈ g.items) := by
  cases h with
  | read h => exact hasRecords_of_read h
  | resolved read groups free h hresolve =>
    obtain ⟨file, hfile, hrecords⟩ := hasRecords_of_read h
    obtain ⟨resolved, hall, hitems⟩ := items_of_foldlM hresolve
    refine ⟨file, hfile, fun d hd decls hbody => ?_⟩
    obtain ⟨r, hr, hrepresents⟩ := hrecords d hd decls hbody
    obtain ⟨item, hitem, hresolved⟩ :=
      exists_right hall ((Item.perm_sorted read.items).mem_iff.2 hr)
    refine ⟨_, ?_, hrepresents.resolved ⟨(Item.record r).library, groups.names, free⟩⟩
    rw [hitems, List.nil_append]
    rwa [(Resolution.resolveIn_eq_ok_iff.1 hresolved).2] at hitem

/-- The dictionaries of a legacy file are records of an interface that it was added to, whatever is
added later. -/
theorem hasRecords_of_addGroup {g : Group} {i added later : Interface}
    (h : Describes library text g) (hadd : i.addGroup g = (added, .ok ()))
    (hgrows : added.Grows later) :
    ∃ file, parseFile text = .ok file ∧ HasRecords file (· ∈ later.records.values) := by
  obtain ⟨file, hfile, hrecords⟩ := hasRecords_of_describes h
  refine ⟨file, hfile, fun d hd decls hbody => ?_⟩
  obtain ⟨r, hr, hrepresents⟩ := hrecords d hd decls hbody
  have hat := (Interface.entersAll_of_addGroup hadd).entered _ hr (.declaration .record r.name) rfl
  have hmem := (later.mem_items_iff (.record r)).2 ⟨_, hgrows.kept _ _ hat⟩
  exact ⟨r, Interface.mem_items_iff_lists.1 hmem, hrepresents⟩

variable {t : FileTree} {ctx : Context} {entry : String × Group}

/-- The group of a legacy file describes the text of the file. -/
theorem describes_of_readLegacy {file : Path} {known : Option GroupMap} {g : Group}
    (h : (readLegacy t library file known free).outcome = .ok g) :
    ∃ text, t.readText file = .ok text ∧ Describes library text g := by
  simp only [readLegacy, Traced.outcome_bind, Traced.outcome_ofExcept] at h
  obtain ⟨text, htext, h⟩ := bind_eq_ok.1 h
  obtain ⟨read, hread, h⟩ := bind_eq_ok.1 h
  obtain ⟨_, -, h⟩ := bind_eq_ok.1 h
  have hread := mapError_eq_ok.1 hread
  refine ⟨text, legacyText_eq_ok.1 htext, ?_⟩
  cases known with
  | none =>
    obtain rfl := Except.ok.inj h
    exact .read hread
  | some groups => exact .resolved read groups free hread h

/-- A source with a legacy file has what the file describes in its interface, in front of its own
items. -/
theorem added_of_source {s : Source} {file : Path}
    (h : (source t ctx groups free entry).outcome = .ok s)
    (hfile : legacyFile? t entry.1 (ctx.roots.get? entry.1) entry.2 = .ok (some file)) :
    ∃ text g added, t.readText file = .ok text ∧ Describes entry.1 text g ∧
      (Interface.empty entry.1).addGroup g = (added, .ok ()) ∧
      added.addGroup entry.2 = (s.interface, .ok ()) := by
  simp only [source, Traced.outcome_bind, Traced.outcome_ofExcept] at h
  obtain ⟨legacy, hlegacy, h⟩ := bind_eq_ok.1 h
  obtain ⟨i, hi, h⟩ := bind_eq_ok.1 h
  obtain ⟨config, -, h⟩ := bind_eq_ok.1 h
  obtain rfl := Except.ok.inj h
  simp only [legacyGroup, hfile, map_eq_pure_bind, Traced.outcome_bind] at hlegacy
  obtain ⟨g, hg, hlegacy⟩ := bind_eq_ok.1 hlegacy
  obtain rfl := Except.ok.inj hlegacy
  obtain ⟨text, htext, hdescribes⟩ := describes_of_readLegacy hg
  have hgroups := mapError_eq_ok.1 hi
  simp only [Option.toList_some, List.singleton_append, Interface.addGroups] at hgroups
  split at hgroups
  · rename_i added hadded
    split at hgroups
    · rename_i last hlast
      obtain rfl := Except.ok.inj hgroups
      exact ⟨text, g, added, htext, hdescribes, hadded, hlast⟩
    · cases hgroups
  · cases hgroups

end Bindery.Library
