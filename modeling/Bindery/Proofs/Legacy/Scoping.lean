import Bindery.Proofs.Group.Visits
import Bindery.Proofs.Interface.Merge
import Bindery.Proofs.Legacy.Translation
/-!
# The scopes of legacy interface files

Whatever a legacy file mentions, at any depth, it declares: each type of the library is the one of
exactly one declaration among the items, and each reference is that of a typedef. So nothing about
the declarations keeps the items from being catalogued.
-/
namespace Bindery

/-- The type that an item declares. -/
def Item.declaredTy? : Item → Option Ty
  | custom c => some (.custom c.modulePath c.name c.builtin)
  | record r => some (.record r.modulePath r.name)
  | enumeration e => some (.enumeration e.modulePath e.name)
  | object o => some (.object o.modulePath o.name)
  | callback c => some (.callback c.modulePath c.name)
  | _ => none

/-- The name that an item declares. -/
def Item.declaredName? : Item → Option String
  | custom c => some c.name
  | record r => some r.name
  | enumeration e => some e.name
  | object o => some o.name
  | callback c => some c.name
  | _ => none

/-- Functions and members. -/
def Item.isCallable : Item → Bool
  | constructor _ | method _ | traitMethod _ | function _ => true
  | _ => false

/-- The declared name of an item is that of its slot. -/
theorem Item.declaredName?_eq_some_iff {item : Item} {name : String} :
    item.declaredName? = some name ↔ ∃ kind, item.slot? = some (.declaration kind name) := by
  cases item <;> simp [declaredName?, slot?]

theorem Item.exists_declaredName? {item : Item} {ty : Ty} (h : item.declaredTy? = some ty) :
    ∃ name, item.declaredName? = some name := by
  cases item <;> simp_all [Item.declaredTy?, Item.declaredName?]

theorem Item.isCallable_of_slot {item : Item} {slot : Slot} (hslot : item.slot? = some slot)
    (hname : item.declaredName? = none) : item.isCallable = true := by
  cases item <;> simp_all [Item.slot?, Item.declaredName?, Item.isCallable]

theorem Item.declaredName?_congr {a b : Item} (h : a.slot? = b.slot?) :
    a.declaredName? = b.declaredName? := by
  refine Option.ext fun name => ?_
  rw [Item.declaredName?_eq_some_iff, Item.declaredName?_eq_some_iff, h]

namespace Legacy

open Outcome

/-- A typedef that stands for a type of another library. When both attributes are given, the one for
data classes counts. -/
structure Definition.Refers (d : Definition) (e : External) : Prop where
  body : d.body = .typedef .foreign
  name : e.name = d.name.text
  space : e.namespaceName = ""
  filled : e.modulePath ≠ ""
  marked : ∃ notes, d.notes? = some notes ∧
    (e.kind = .dataClass ∧ notes.get? "External" = some (some e.modulePath) ∨
      e.kind = .interface ∧ notes.get? "External" = none ∧
        notes.get? "ExternalInterface" = some (some e.modulePath))
  tagged : e.tagged = false
  holdsObjects : e.holdsObjects = true

/-- The type that a definition declares. -/
inductive Declares (s : Scope) (d : Definition) : Ty → Prop where
  | record {fields : List FieldDecl} (hbody : d.body = .dictionary fields) :
      Declares s d (.record s.library d.name.text)
  | enumeration {values : List Literal} {comma : Bool}
      (hbody : d.body = .enumeration values comma) :
      Declares s d (.enumeration s.library d.name.text)
  | variants {members : List MemberDecl} (hbody : d.body = .interface members)
      (hkind : d.isEnumeration = true) : Declares s d (.enumeration s.library d.name.text)
  | object {members : List MemberDecl} (hbody : d.body = .interface members)
      (hkind : d.isEnumeration = false) : Declares s d (.object s.library d.name.text)
  | callback {functions : List FunctionDecl} (hbody : d.body = .callback functions) :
      Declares s d (.callback s.library d.name.text)
  | custom {e : TypeExpr} {builtin : Ty} (hbody : d.body = .typedef (.type e))
      (hown : d.isExternal = false) (hty : tyOf s.declared e = .ok builtin) :
      Declares s d (.custom s.library d.name.text builtin)
  | external {e : External} (hrefers : d.Refers e) : Declares s d (.external e)

variable {s : Scope} {d : Definition} {file : File} {customs : List CustomType} {ty t : Ty}

theorem filled?_eq_some {value : Option String} {text : String} (h : filled? value = some text) :
    value = some text ∧ text ≠ "" := by
  unfold filled? at h
  split at h
  · cases h
  · rename_i hne
    exact ⟨h, fun hempty => hne (hempty ▸ h)⟩

theorem refers_of_externalTy {notes : Notes} {target : TypedefTarget}
    (hnotes : d.notes? = some notes) (hbody : d.body = .typedef target)
    (h : externalTy notes d.name target = .ok ty) :
    ∃ e, ty = .external e ∧ d.Refers e := by
  cases target with
  | type _ => cases h
  | foreign =>
    simp only [externalTy] at h
    cases hexternal : notes.get? "External" with
    | some value =>
      simp only [hexternal] at h
      split at h
      · cases h
      · rename_i library hfilled
        obtain rfl := Except.ok.inj h
        obtain ⟨rfl, hne⟩ := filled?_eq_some hfilled
        exact ⟨_, rfl, hbody, rfl, rfl, hne, ⟨notes, hnotes, .inl ⟨rfl, hexternal⟩⟩, rfl, rfl⟩
    | none =>
      simp only [hexternal] at h
      split at h
      · cases h
      · rename_i library hfilled
        obtain rfl := Except.ok.inj h
        obtain ⟨hvalue, hne⟩ := filled?_eq_some hfilled
        have hinterface : notes.get? "ExternalInterface" = some (some library) := by
          cases hget : notes.get? "ExternalInterface" <;> simp_all
        exact ⟨_, rfl, hbody, rfl, rfl, hne,
          ⟨notes, hnotes, .inr ⟨rfl, hexternal, hinterface⟩⟩, rfl, rfl⟩

theorem Enters.declares {entry : String × Ty} (h : Enters s.library d entry) :
    Declares s d entry.2 := by
  obtain ⟨notes, hnotes, h⟩ := h.ty
  have hnotes := Definition.notes?_eq hnotes
  have hkind : d.isEnumeration = notes.isEnumeration := by simp [Definition.isEnumeration, hnotes]
  cases hbody : d.body with
  | space _ => simp [hbody, declaredTy?] at h
  | dictionary fields =>
    rw [hbody] at h
    rw [← Option.some.inj (Except.ok.inj h)]
    exact .record hbody
  | enumeration values comma =>
    rw [hbody] at h
    rw [← Option.some.inj (Except.ok.inj h)]
    exact .enumeration hbody
  | interface members =>
    rw [hbody] at h
    rw [← Option.some.inj (Except.ok.inj h)]
    split
    · rename_i henum
      exact .variants hbody (hkind.trans henum)
    · rename_i hobject
      exact .object hbody (by simpa [hkind] using hobject)
  | callback functions =>
    rw [hbody] at h
    rw [← Option.some.inj (Except.ok.inj h)]
    exact .callback hbody
  | typedef target =>
    simp only [hbody, declaredTy?] at h
    split at h
    · obtain ⟨ty, hty, h⟩ := map_eq_ok.1 h
      obtain ⟨e, rfl, hrefers⟩ := refers_of_externalTy hnotes hbody hty
      rw [← Option.some.inj h]
      exact .external hrefers
    · cases h

theorem isExternal_of_isCustom (h : d.isCustom = true) : d.isExternal = false := by
  unfold Definition.isCustom at h
  split at h
  · simpa using h
  · cases h

/-- A name of a file stands for the type that one of its definitions declares. -/
theorem Scope.NamesOf.declares (h : s.NamesOf file customs) {name : String}
    (hget : s.declared.get? name = some ty) :
    ∃ d ∈ file, d.declares = true ∧ d.name.text = name ∧ Declares s d ty := by
  obtain ⟨firsts, hentries, hfirsts⟩ := h.entries
  rw [Table.get?_eq_some_iff, hentries, List.mem_append] at hget
  rcases hget with hfirst | hcustom
  · obtain ⟨d, hd, henters⟩ := exists_left hfirsts hfirst
    obtain ⟨hd, hfirst⟩ := List.mem_filter.1 hd
    have hdeclares : d.declares = true := by
      simp only [Definition.isFirst, Bool.and_eq_true] at hfirst
      exact hfirst.1
    exact ⟨d, hd, hdeclares, henters.name.symm, henters.declares⟩
  · obtain ⟨c, hc, hentry⟩ := List.mem_map.1 hcustom
    obtain ⟨d, hd, hmakes⟩ := exists_left h.customs hc
    obtain ⟨hd, hown⟩ := List.mem_filter.1 hd
    obtain ⟨rfl, rfl⟩ := Prod.mk.inj hentry
    obtain ⟨e, hbody, hty⟩ := hmakes.builtin
    have hdeclares : d.declares = true := by simp [Definition.declares, hbody]
    refine ⟨d, hd, hdeclares, hmakes.name.symm, ?_⟩
    rw [hmakes.path, hmakes.name]
    exact .custom hbody (isExternal_of_isCustom hown) hty

/-- A type that is put together from the names of a scope. -/
inductive Composed (s : Scope) : Ty → Prop where
  | primitive (kind : Primitive) : Composed s (.primitive kind)
  | named {name : String} {ty : Ty} (hget : s.declared.get? name = some ty) : Composed s ty
  | optional {inner : Ty} (h : Composed s inner) : Composed s (.optional inner)
  | sequence {inner : Ty} (h : Composed s inner) : Composed s (.sequence inner)
  | map {key value : Ty} (hkey : Composed s key) (hvalue : Composed s value) :
      Composed s (.map key value)

/-- A type that is read is composed of primitive types and of those in scope. -/
theorem composed_of_tyOf {e : TypeExpr} (h : tyOf s.declared e = .ok ty) : Composed s ty := by
  induction e generalizing ty with
  | named w =>
    simp only [tyOf] at h
    split at h
    · obtain rfl := Except.ok.inj h
      exact .primitive _
    · split at h
      · rename_i found hget
        obtain rfl := Except.ok.inj h
        exact .named hget
      · cases h
  | sequence inner ih =>
    obtain ⟨innerTy, hinner, rfl⟩ := map_eq_ok.1 h
    exact .sequence (ih hinner)
  | optional inner ih =>
    obtain ⟨innerTy, hinner, rfl⟩ := map_eq_ok.1 h
    exact .optional (ih hinner)
  | map key value ihkey ihvalue =>
    obtain ⟨keyTy, hkey, h⟩ := bind_eq_ok.1 h
    obtain ⟨valueTy, hvalue, h⟩ := bind_eq_ok.1 h
    obtain rfl := Except.ok.inj h
    exact .map (ihkey hkey) (ihvalue hvalue)

/-- A definition declares a type with a name. -/
theorem Declares.isNamed (h : Declares s d ty) : ty.isNamed = true := by cases h <;> rfl

/-- No name stands for a type that is put together. -/
theorem Scope.NamesOf.isNamed (hs : s.NamesOf file customs) {name : String}
    (hget : s.declared.get? name = some ty) : ty.isNamed = true := by
  obtain ⟨d, -, -, -, hdeclares⟩ := hs.declares hget
  exact hdeclares.isNamed

/-- What is inside a type is put together from the same names. -/
theorem Composed.inside (hs : s.NamesOf file customs) (h : Composed s ty)
    (ht : t ∈ ty.occurrences) : Composed s t := by
  induction ty with
  | primitive _ | object _ _ | record _ _ | enumeration _ _ | callback _ _ | external _ =>
    obtain rfl := List.mem_singleton.1 ht
    exact h
  | custom path name builtin ih =>
    rcases List.mem_cons.1 ht with rfl | hinside
    · exact h
    · cases h with
      | named hget =>
        obtain ⟨d, -, -, -, hdeclares⟩ := hs.declares hget
        cases hdeclares with
        | custom hbody hown hty => exact ih (composed_of_tyOf hty) hinside
  | optional inner ih | sequence inner ih =>
    rcases List.mem_cons.1 ht with rfl | ht
    · exact h
    · cases h with
      | named hget => cases hs.isNamed hget
      | _ hinner => exact ih hinner ht
  | map key value ihkey ihvalue =>
    rcases List.mem_cons.1 ht with rfl | ht
    · exact h
    · cases h with
      | named hget => cases hs.isNamed hget
      | map hkey hvalue =>
        rcases List.mem_append.1 ht with ht | ht
        · exact ihkey hkey ht
        · exact ihvalue hvalue ht

theorem Composed.get? (h : Composed s ty) (hnamed : ty.isNamed = true) :
    ∃ name, s.declared.get? name = some ty := by
  cases h with
  | named hget => exact ⟨_, hget⟩
  | _ => cases hnamed

theorem composed_of_paramsOf {decls : List ParamDecl} {params : List Param}
    (h : paramsOf s decls = .ok params) : ∀ p ∈ params, Composed s p.ty := by
  intro p hp
  obtain ⟨decl, -, hdecl⟩ := exists_left (mapM_eq_ok.1 h) hp
  obtain ⟨ty, hty, rfl⟩ := map_eq_ok.1 hdecl
  exact composed_of_tyOf hty

theorem composed_of_throwsOf {attributes : List Attribute} {mark : Mark} {throws : Option Ty}
    (h : throwsOf s attributes mark = .ok throws) : ∀ ty ∈ throws, Composed s ty := by
  obtain ⟨notes, -, h⟩ := bind_eq_ok.1 h
  split at h
  · obtain rfl := Except.ok.inj h
    simp
  · split at h
    · cases h
    · split at h
      · cases h
      · rename_i hget
        obtain rfl := Except.ok.inj h
        intro ty hty
        obtain rfl := Option.some.inj hty
        exact .named hget

theorem composed_of_resultOf {result : Option TypeExpr} {returns : Option Ty}
    (h : resultOf s result = .ok returns) : ∀ ty ∈ returns, Composed s ty := by
  cases result with
  | none =>
    obtain rfl := Except.ok.inj h
    simp
  | some e =>
    obtain ⟨ty, hty, rfl⟩ := map_eq_ok.1 h
    intro ty' hty'
    obtain rfl := Option.some.inj hty'
    exact composed_of_tyOf hty

theorem composed_of_signatureTypes {inputs : List Param} {returns throws : Option Ty}
    (hinputs : ∀ p ∈ inputs, Composed s p.ty) (hreturns : ∀ ty ∈ returns, Composed s ty)
    (hthrows : ∀ ty ∈ throws, Composed s ty) :
    ∀ ty ∈ Item.signatureTypes inputs returns throws, Composed s ty := by
  intro ty hty
  simp only [Item.signatureTypes, List.mem_append, List.mem_map, Option.mem_toList] at hty
  rcases hty with (⟨p, hp, rfl⟩ | hty) | hty
  · exact hinputs p hp
  · exact hreturns ty hty
  · exact hthrows ty hty

/-- The types of a signature are composed of those in scope. -/
theorem composed_of_signatureOf {f : FunctionDecl} {g : Signature} (h : signatureOf s f = .ok g) :
    ∀ ty ∈ Item.signatureTypes g.inputs g.returns g.throws, Composed s ty := by
  obtain ⟨inputs, hinputs, h⟩ := bind_eq_ok.1 h
  obtain ⟨returns, hreturns, h⟩ := bind_eq_ok.1 h
  obtain ⟨throws, hthrows, h⟩ := bind_eq_ok.1 h
  obtain ⟨notes, -, h⟩ := bind_eq_ok.1 h
  obtain rfl := Except.ok.inj h
  exact composed_of_signatureTypes (composed_of_paramsOf hinputs) (composed_of_resultOf hreturns)
    (composed_of_throwsOf hthrows)

/-- The types of an item are put together from the names of the scope. -/
theorem Gives.composed {e : Entry} {item : Item} (h : Gives s e item) :
    ∀ ty ∈ item.types, Composed s ty := by
  cases h with
  | record hbody hfields =>
    intro ty hty
    obtain ⟨field, hfield, rfl⟩ := List.mem_map.1 hty
    obtain ⟨decl, -, hgives⟩ := exists_left hfields hfield
    exact composed_of_tyOf hgives.ty
  | enumeration hbody hvariants =>
    intro ty hty
    obtain ⟨v, hv, hty⟩ := List.mem_flatMap.1 hty
    obtain ⟨l, -, hgives⟩ := exists_left hvariants hv
    simp [hgives.fields] at hty
  | variants hbody hkind hvariants =>
    intro ty hty
    obtain ⟨v, hv, hty⟩ := List.mem_flatMap.1 hty
    obtain ⟨decl, -, hgives⟩ := exists_left hvariants hv
    obtain ⟨field, hfield, rfl⟩ := List.mem_map.1 hty
    obtain ⟨p, -, hgives⟩ := exists_left hgives.fields hfield
    exact composed_of_tyOf hgives.ty
  | object _ _ | callback _ => intro ty hty; cases hty
  | custom hbody hty =>
    intro ty h
    obtain rfl := List.mem_singleton.1 h
    exact composed_of_tyOf hty
  | constructor hbody hkind hinputs hthrows =>
    exact composed_of_signatureTypes (composed_of_paramsOf hinputs) (by simp)
      (composed_of_throwsOf hthrows)
  | function _ hsignature | method _ _ _ hsignature | traitMethod _ hsignature =>
    exact composed_of_signatureOf hsignature

/-- The definition that an entry is from. -/
def Entry.definition : Entry → Definition
  | .type d | .constructor d _ | .function d _ _ => d

theorem declares_of_isCustom (h : d.isCustom = true) : d.declares = true := by
  unfold Definition.isCustom at h
  split at h
  · rename_i hbody
    simp [Definition.declares, hbody]
  · cases h

/-- What a definition declares is its name, unless it is a namespace, and then its callables. -/
theorem mem_entries {e : Entry} (h : e ∈ d.entries) :
    e = .type d ∧ d.declares = true ∨ e ∈ d.callables := by
  unfold Definition.entries at h
  split at h
  · exact .inr h
  · exact .inr h
  all_goals
    rename_i hbody
    rcases List.mem_cons.1 h with rfl | h
    · exact .inl ⟨rfl, by simp [Definition.declares, hbody]⟩
    · exact .inr h

theorem definition_mem_file {e : Entry} (h : e ∈ file.entries) : e.definition ∈ file := by
  rcases List.mem_append.1 h with h | h
  · obtain ⟨d, hd, rfl⟩ := List.mem_map.1 h
    exact (List.mem_filter.1 hd).1
  · obtain ⟨d, hd, h⟩ := List.mem_flatMap.1 h
    rcases mem_entries h with ⟨rfl, -⟩ | h
    · exact hd
    · rcases mem_callables h with ⟨c, rfl⟩ | ⟨place, f, rfl⟩ <;> exact hd

theorem declares_of_type_mem (h : .type d ∈ file.entries) : d.declares = true := by
  rcases List.mem_append.1 h with h | h
  · obtain ⟨d, hd, he⟩ := List.mem_map.1 h
    obtain rfl := Entry.type.inj he
    exact declares_of_isCustom (List.mem_filter.1 hd).2
  · obtain ⟨d', hd, h⟩ := List.mem_flatMap.1 h
    rcases mem_entries h with ⟨he, hdeclares⟩ | h
    · obtain rfl := Entry.type.inj he
      exact hdeclares
    · rcases mem_callables h with ⟨c, he⟩ | ⟨place, f, he⟩ <;> cases he

/-- A definition gives the declaration of the type that it declares. -/
theorem Gives.declaredTy? {item : Item} (h : Gives s (.type d) item) (hdeclares : Declares s d ty)
    {path : String} (hpath : ty.declaredAt? = some path) : item.declaredTy? = some ty := by
  cases hdeclares with
  | record hbody => cases h <;> simp_all [Item.declaredTy?]
  | enumeration hbody => cases h <;> simp_all [Item.declaredTy?]
  | variants hbody hkind => cases h <;> simp_all [Item.declaredTy?]
  | object hbody hkind => cases h <;> simp_all [Item.declaredTy?]
  | callback hbody => cases h <;> simp_all [Item.declaredTy?]
  | custom hbody hown hty => cases h <;> simp_all [Item.declaredTy?]
  | external _ => cases hpath

/-- A definition that declares a type of the library is held as an entry. -/
theorem type_mem_heldEntries (hd : d ∈ file) (h : Declares s d ty) {path : String}
    (hpath : ty.declaredAt? = some path) : .type d ∈ heldEntries file.entries := by
  refine List.mem_filter.2 ⟨?_, rfl⟩
  have hentry : d.isCustom = true ∨ .type d ∈ d.entries := by
    cases h with
    | custom hbody hown hty => exact .inl (by simp [Definition.isCustom, hbody, hown])
    | external _ => cases hpath
    | record hbody | enumeration hbody | variants hbody _ | object hbody _ | callback hbody =>
      exact .inr (by simp [Definition.entries, hbody])
  rcases hentry with hcustom | hentry
  · exact List.mem_append_left _ (List.mem_map_of_mem (List.mem_filter.2 ⟨hd, hcustom⟩))
  · exact List.mem_append_right _ (List.mem_flatMap.2 ⟨d, hd, hentry⟩)

theorem Declares.path (h : Declares s d ty) {path : String} (hpath : ty.declaredAt? = some path) :
    path = s.library := by
  cases h with
  | external _ => cases hpath
  | _ => exact (Option.some.inj hpath).symm

/-- Only a type declares a name, and it is the one of its definition. -/
theorem Gives.declaredName? {e : Entry} {item : Item} (h : Gives s e item) {name : String}
    (hname : item.declaredName? = some name) : ∃ d, e = .type d ∧ d.name.text = name := by
  cases h with
  | record _ _ | enumeration _ _ | variants _ _ _ | object _ _ | callback _ | custom _ _ =>
    exact ⟨_, rfl, Option.some.inj hname⟩
  | _ => cases hname

theorem slot?_of_object {decl : Item} {path name : String}
    (h : decl.declaredTy? = some (.object path name)) :
    decl.slot? = some (.declaration .object name) := by
  cases decl <;> simp_all [Item.declaredTy?, Item.slot?]

theorem slot?_of_callback {decl : Item} {path name : String}
    (h : decl.declaredTy? = some (.callback path name)) :
    decl.slot? = some (.declaration .callback name) := by
  cases decl <;> simp_all [Item.declaredTy?, Item.slot?]

/-- The owner of a member that is held is what its definition declares. -/
theorem Gives.owner {e : Entry} {item : Item} (h : Gives s e item) (hheld : e.isStray = false)
    {slot : Slot} (hslot : item.slot? = some slot) {owner : String} {kinds : List DeclKind}
    (howner : slot.owner? = some (owner, kinds)) :
    ∃ ty path, Declares s e.definition ty ∧ ty.declaredAt? = some path ∧ ∃ kind ∈ kinds,
      ∀ decl : Item, decl.declaredTy? = some ty →
        decl.slot? = some (.declaration kind owner) := by
  cases h with
  | record _ _ | enumeration _ _ | variants _ _ _ | object _ _ | callback _ | custom _ _
  | function _ _ =>
    obtain rfl := Option.some.inj hslot
    cases howner
  | constructor hbody hkind _ _ | method hbody hkind _ _ =>
    obtain rfl := Option.some.inj hslot
    obtain ⟨rfl, rfl⟩ := Prod.mk.inj (Option.some.inj howner)
    exact ⟨_, _, .object hbody hkind, rfl, .object, by simp, fun _ => slot?_of_object⟩
  | @traitMethod d place f g htrait hsignature =>
    obtain rfl := Option.some.inj hslot
    obtain ⟨rfl, rfl⟩ := Prod.mk.inj (Option.some.inj howner)
    cases hbody : d.body with
    | interface members =>
      have hkind : d.isEnumeration = false := by
        simpa [Entry.isStray, Definition.losesCallables, hbody] using hheld
      exact ⟨_, _, .object hbody hkind, rfl, .object, by simp, fun _ => slot?_of_object⟩
    | callback functions =>
      exact ⟨_, _, .callback hbody, rfl, .callback, by simp, fun _ => slot?_of_callback⟩
    | space _ | dictionary _ | enumeration _ _ | typedef _ =>
      simp [Definition.holdsTraitMethods, hbody] at htrait

/-- The names that a file declares. -/
def File.names (file : File) : List String :=
  (file.filter Definition.declares).map fun d => d.name.text

/-- Items of a file that mention only what the file declares. Types of the library are declared by
exactly one item, references by exactly one typedef; the names are distinct and no primitives; and a
member has its owner among the items. -/
structure WellScoped (library : String) (file : File) (items : List Item) : Prop where
  declared : ∀ item ∈ items, ∀ t ∈ item.occurrences, ∀ path, t.declaredAt? = some path →
    path = library ∧ ∃ decl ∈ items, decl.declaredTy? = some t ∧
      ∀ other ∈ items, other.declaredName? = decl.declaredName? → other = decl
  external : ∀ item ∈ items, ∀ e, .external e ∈ item.occurrences → ∃ d ∈ file, d.Refers e ∧
    ∀ other ∈ file, other.declares = true → other.name.text = d.name.text → other = d
  distinct : file.names.Nodup
  free : ∀ name ∈ file.names, Primitive.ofSpelling? name = none
  emitted : ∀ item ∈ items, ∀ name, item.declaredName? = some name → name ∈ file.names
  owners : ∀ item ∈ items, ∀ slot, item.slot? = some slot →
    ∀ owner kinds, slot.owner? = some (owner, kinds) →
      ∃ decl ∈ items, ∃ kind ∈ kinds, decl.slot? = some (.declaration kind owner)

/-- Every definition that declares a type is in the first pass or in the second. -/
theorem perm_filter_declares (file : File) :
    (file.filter Definition.isFirst ++ file.filter Definition.isCustom).Perm
      (file.filter Definition.declares) := by
  have hsplit := List.filter_append_perm (fun d : Definition => !d.isCustom)
    (file.filter Definition.declares)
  have hfirst : (fun d : Definition => !d.isCustom && d.declares) = Definition.isFirst := by
    funext d
    rw [Definition.isFirst, Bool.and_comm]
  have hcustom : (fun d : Definition => !!d.isCustom && d.declares) = Definition.isCustom := by
    funext d
    cases h : d.isCustom with
    | false => rfl
    | true => simp [declares_of_isCustom h]
  simpa only [List.filter_filter, hfirst, hcustom] using hsplit

/-- The names of a scope are those that its file declares. -/
theorem Scope.NamesOf.keys (h : s.NamesOf file customs) : s.declared.keys.Perm file.names := by
  obtain ⟨firsts, hentries, hfirsts⟩ := h.entries
  have hfirst : (file.filter Definition.isFirst).map (fun d => d.name.text) = firsts.map Prod.fst :=
    map_eq_of_related hfirsts fun _ _ henters => henters.name.symm
  have hcustom : (file.filter Definition.isCustom).map (fun d => d.name.text) =
      (customs.map customEntry).map Prod.fst := by
    rw [List.map_map]
    exact map_eq_of_related h.customs fun _ _ hmakes => hmakes.name.symm
  rw [Table.keys, hentries, List.map_append, ← hfirst, ← hcustom, ← List.map_append]
  exact (perm_filter_declares file).map _

/-- No definition has the name of a primitive type. -/
theorem Scope.NamesOf.free (h : s.NamesOf file customs) (hd : d ∈ file)
    (hdeclares : d.declares = true) : Primitive.ofSpelling? d.name.text = none := by
  obtain ⟨firsts, -, hfirsts⟩ := h.entries
  cases hcustom : d.isCustom with
  | false =>
    have hfirst : d.isFirst = true := by simp [Definition.isFirst, hdeclares, hcustom]
    obtain ⟨entry, -, henters⟩ := exists_right hfirsts (List.mem_filter.2 ⟨hd, hfirst⟩)
    exact henters.free
  | true =>
    obtain ⟨c, -, hmakes⟩ := exists_right h.customs (List.mem_filter.2 ⟨hd, hcustom⟩)
    exact hmakes.free

/-- Two definitions of a file do not declare one name. -/
theorem Scope.NamesOf.eq_of_name (h : s.NamesOf file customs) {other : Definition} (hd : d ∈ file)
    (hother : other ∈ file) (hdeclares : d.declares = true) (hother' : other.declares = true)
    (hname : d.name.text = other.name.text) : d = other :=
  List.inj_on_of_nodup_map (h.keys.nodup_iff.1 s.declared.nodup)
    (List.mem_filter.2 ⟨hd, hdeclares⟩) (List.mem_filter.2 ⟨hother, hother'⟩) hname

/-- An item that declares a name is given by a definition that declares it. -/
theorem Translates.declares {library : String} {g : Group} (h : Translates library file s g)
    {item : Item} (hitem : item ∈ g.items) {name : String}
    (hname : item.declaredName? = some name) :
    ∃ d ∈ file, d.declares = true ∧ d.name.text = name ∧ Gives s (.type d) item := by
  obtain ⟨e, he, hgives⟩ := exists_left h.items hitem
  obtain ⟨d, rfl, hd⟩ := hgives.declaredName? hname
  have hmem := (List.mem_filter.1 he).1
  exact ⟨d, definition_mem_file hmem, declares_of_type_mem hmem, hd, hgives⟩

/-- Two items of a file do not declare one name. -/
theorem Translates.eq_of_declaredName? {library : String} {g : Group}
    (h : Translates library file s g) {a b : Item} (ha : a ∈ g.items) (hb : b ∈ g.items)
    {name : String} (hname : a.declaredName? = some name) (hname' : b.declaredName? = some name) :
    a = b := by
  obtain ⟨customs, hnames⟩ := h.names
  obtain ⟨d, hd, hdeclares, hdname, hgives⟩ := h.declares ha hname
  obtain ⟨d', hd', hdeclares', hdname', hgives'⟩ := h.declares hb hname'
  obtain rfl := hnames.eq_of_name hd hd' hdeclares hdeclares' (hdname.trans hdname'.symm)
  exact gives_unique hgives hgives'

/-- A definition that declares a type of the library gives an item that declares it. -/
theorem Translates.exists_item {library : String} {g : Group} (h : Translates library file s g)
    (hd : d ∈ file) (hdeclares : Declares s d ty) {path : String}
    (hpath : ty.declaredAt? = some path) : ∃ item ∈ g.items, item.declaredTy? = some ty := by
  obtain ⟨item, hitem, hgives⟩ :=
    exists_right h.items (type_mem_heldEntries hd hdeclares hpath)
  exact ⟨item, hitem, hgives.declaredTy? hdeclares hpath⟩

/-- Every type inside an item is put together from the names of the scope. -/
theorem Translates.composed {library : String} {g : Group} (h : Translates library file s g)
    {item : Item} (hitem : item ∈ g.items) (ht : t ∈ item.occurrences) : Composed s t := by
  obtain ⟨customs, hnames⟩ := h.names
  obtain ⟨e, -, hgives⟩ := exists_left h.items hitem
  obtain ⟨ty, hty, ht⟩ := List.mem_flatMap.1 ht
  exact (hgives.composed ty hty).inside hnames ht

/-- The items of a translated file are well scoped. -/
theorem Translates.wellScoped {library : String} {g : Group} (h : Translates library file s g) :
    WellScoped library file g.items := by
  obtain ⟨customs, hnames⟩ := h.names
  refine {
    declared := fun item hitem t ht path hpath => ?_
    external := fun item hitem e he => ?_
    distinct := hnames.keys.nodup_iff.1 s.declared.nodup
    free := fun name hname => ?_
    emitted := fun item hitem name hname => ?_
    owners := fun item hitem slot hslot owner kinds howner => ?_ }
  · have hnamed : t.isNamed = true := by
      cases t <;> simp_all [Ty.declaredAt?, Ty.isNamed]
    obtain ⟨name, hget⟩ := (h.composed hitem ht).get? hnamed
    obtain ⟨d, hd, -, -, hdeclares⟩ := hnames.declares hget
    obtain ⟨decl, hdecl, hty⟩ := h.exists_item hd hdeclares hpath
    obtain ⟨declared, hdeclared⟩ := Item.exists_declaredName? hty
    refine ⟨(hdeclares.path hpath).trans h.inScope, decl, hdecl, hty, fun other hother hname => ?_⟩
    exact h.eq_of_declaredName? hother hdecl (hname.trans hdeclared) hdeclared
  · obtain ⟨name, hget⟩ := (h.composed hitem he).get? rfl
    obtain ⟨d, hd, hdeclares, -, hrefers⟩ := hnames.declares hget
    cases hrefers with
    | external hrefers =>
      refine ⟨d, hd, hrefers, fun other hother hother' hname => ?_⟩
      exact hnames.eq_of_name hother hd hother' hdeclares hname
  · obtain ⟨d, hd, rfl⟩ := List.mem_map.1 hname
    obtain ⟨hd, hdeclares⟩ := List.mem_filter.1 hd
    exact hnames.free hd hdeclares
  · obtain ⟨d, hd, hdeclares, rfl, -⟩ := h.declares hitem hname
    exact List.mem_map_of_mem (List.mem_filter.2 ⟨hd, hdeclares⟩)
  · obtain ⟨e, he, hgives⟩ := exists_left h.items hitem
    obtain ⟨hentry, hheld⟩ := List.mem_filter.1 he
    obtain ⟨ty, path, hdeclares, hpath, kind, hkind, hslots⟩ :=
      hgives.owner (by simpa using hheld) hslot howner
    obtain ⟨decl, hdecl, hty⟩ := h.exists_item (definition_mem_file hentry) hdeclares hpath
    exact ⟨decl, hdecl, kind, hkind, hslots decl hty⟩

/-- Well-scoped items can stand in one interface when no two callables have one key. -/
theorem WellScoped.coherent_iff {library : String} {items : List Item}
    (h : WellScoped library file items)
    (hunique : ∀ a ∈ items, ∀ b ∈ items, ∀ name, a.declaredName? = some name →
      b.declaredName? = some name → a = b) :
    Coherent items ↔ ∀ a ∈ items, ∀ b ∈ items, a.isCallable = true → b.isCallable = true →
      a.slot? = b.slot? → a = b := by
  constructor
  · intro hcoherent a ha b hb hcallable _ hsame
    cases hslot : a.slot? with
    | some slot => exact hcoherent.slots a ha b hb slot hslot (hsame ▸ hslot)
    | none => cases a <;> simp_all [Item.slot?, Item.isCallable]
  · intro hcallables
    refine ⟨fun a ha b hb slot hslot hslot' => ?_, fun a ha b hb kind kind' name hslot hslot' => ?_,
      h.owners⟩
    · have hsame := hslot.trans hslot'.symm
      have hnames := Item.declaredName?_congr hsame
      cases hname : a.declaredName? with
      | some name => exact hunique a ha b hb name hname (hnames.symm.trans hname)
      | none =>
        have hname' := hnames.symm.trans hname
        exact hcallables a ha b hb (Item.isCallable_of_slot hslot hname)
          (Item.isCallable_of_slot hslot' hname') hsame
    · exact hunique a ha b hb name (Item.declaredName?_eq_some_iff.2 ⟨kind, hslot⟩)
        (Item.declaredName?_eq_some_iff.2 ⟨kind', hslot'⟩)

/-- The group of a translated file can be added unless two different callables share a slot. -/
theorem Translates.addGroup_eq_ok_iff {library : String} {g : Group}
    (h : Translates library file s g) :
    ((Interface.empty library).addGroup g).2 = .ok () ↔
      ∀ a ∈ g.items, ∀ b ∈ g.items, a.isCallable = true → b.isCallable = true →
        a.slot? = b.slot? → a = b := by
  have hempty := Interface.wellFormed_empty library
  rw [hempty.addGroup_eq_ok_iff h.inGroup (by simp [Interface.empty]),
    ← h.wellScoped.coherent_iff fun a ha b hb _ => h.eq_of_declaredName? ha hb]
  have hmem : ∀ item slot, item.slot? = some slot →
      (item ∈ (Interface.empty library).items ++ g.definitions ↔ item ∈ g.items) := by
    intro item slot hslot
    simp [Interface.mem_items_iff, Interface.at?_empty, Interface.mem_definitions_iff g hslot]
  exact ⟨fun hcoherent => hcoherent.congr fun item slot hslot => (hmem item slot hslot).symm,
    fun hcoherent => hcoherent.congr hmem⟩

/-- A legacy file that is read is well scoped, so that its group is added to a new interface of the
library unless two different callables have one key. -/
theorem read_wellScoped {library : String} {text : List Char} {g : Group}
    (h : read library text = .ok g) :
    ∃ file, parseFile text = .ok file ∧ WellScoped library file g.items ∧
      ((∃ fault, ((Interface.empty library).addGroup g).2 = .error fault) ↔
        ∃ a ∈ g.items, ∃ b ∈ g.items, a ≠ b ∧ a.isCallable = true ∧ b.isCallable = true ∧
          a.slot? = b.slot?) := by
  obtain ⟨file, s, hfile, h⟩ := translates_of_read h
  refine ⟨file, hfile, h.wellScoped, ?_⟩
  have hfails : (∃ fault, ((Interface.empty library).addGroup g).2 = .error fault) ↔
      ¬((Interface.empty library).addGroup g).2 = .ok () := by
    cases ((Interface.empty library).addGroup g).2 <;> simp
  rw [hfails, h.addGroup_eq_ok_iff]
  push Not
  constructor
  · rintro ⟨a, ha, b, hb, hcallable, hcallable', hsame, hne⟩
    exact ⟨a, ha, b, hb, hne, hcallable, hcallable', hsame⟩
  · rintro ⟨a, ha, b, hb, hne, hcallable, hcallable', hsame⟩
    exact ⟨a, ha, b, hb, hcallable, hcallable', hsame, hne⟩

/-- A file with a type of every kind, some of them inside others. -/
def scopedText : List Char :=
  ("namespace n \x7b void f(sequence<T> t, E? e); \x7d;\n[Custom] typedef string T;\n" ++
    "[External=\"b\"] typedef extern E;\n" ++
    "[Trait] interface O \x7b [Throws=X] void m(record<string, R> r); \x7d;\n" ++
    "dictionary R \x7b E e; O? o; \x7d;\n[Error] enum X \x7b \"A\" \x7d;").toList

theorem read_wellScoped_scopedText : ∃ g file, read "a" scopedText = .ok g ∧
    parseFile scopedText = .ok file ∧ WellScoped "a" file g.items ∧
    ((Interface.empty "a").addGroup g).2 = .ok () := by
  have hadded : (read "a" scopedText).map (fun g => ((Interface.empty "a").addGroup g).2) =
      .ok (.ok ()) := by decide +kernel
  obtain ⟨g, hread, hadded⟩ := map_eq_ok.1 hadded
  obtain ⟨file, hfile, hscoped, -⟩ := read_wellScoped hread
  exact ⟨g, file, hread, hfile, hscoped, hadded⟩

end Legacy
end Bindery
