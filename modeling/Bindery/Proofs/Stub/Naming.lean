import Bindery.Group.Resolution
import Bindery.Proofs.Stub.Sequence
/-!
# What the names in a stub stand for

A type goes by its bare name in a stub, whatever its module path is and whatever library it belongs
to. So the name tells which type is meant only as long as everything that binds it agrees.
-/
namespace Bindery

/-- The declared types that are named where a type stands. A custom type hides what it is made
of. -/
def Ty.shown : Ty → List Ident
  | object path name | record path name | enumeration path name | callback path name
  | custom path name _ => [⟨path, name⟩]
  | external e => [e.ident]
  | optional inner | sequence inner => inner.shown
  | map key value => key.shown ++ value.shown
  | primitive _ => []

namespace Stub

variable {s : Section} {i : Interface} {a : Annotation} {space : String}

/-- The declared types that an annotation names. -/
def Annotation.typeNames : Annotation → List String
  | primitive _ => []
  | named name => [name]
  | optional inner | sequence inner => inner.typeNames
  | map key value => key.typeNames ++ value.typeNames

/-- An annotation shows the generated names of the types it stands for. -/
theorem typeNames_ofTy (ty : Ty) :
    Annotation.typeNames (.ofTy s ty) = ty.shown.map fun id => s.renamed id.name := by
  induction ty with
  | primitive kind => rfl
  | object _ _ | record _ _ | enumeration _ _ | callback _ _ | custom _ _ _ => rfl
  | external e => rfl
  | optional inner ih | sequence inner ih => exact ih
  | map key value ihkey ihvalue =>
    simp only [Ty.shown, Annotation.ofTy, Annotation.typeNames, List.map_append, ihkey, ihvalue]

/-- The names of the constants of a stub. -/
def constantNames : List String := ["NAMESPACE", "CDYLIB_NAME"]

/-- A stub binds a name to a declared type, which it imports or declares. -/
inductive Denotes (i : Interface) : String → Ident → Prop where
  | imported {e : External} : e ∈ i.externals → Denotes i e.name e.ident
  | declared {item : Item} {kind : DeclKind} {name : String} : item ∈ i.items →
      item.slot? = some (.declaration kind name) → Denotes i name ⟨item.modulePath, name⟩

/-- A stub binds a name to something that is no declared type. -/
inductive BindsOther (i : Interface) : String → Prop where
  | standard {name : String} : name ∈ standardNames → BindsOther i name
  | constant {name : String} : name ∈ constantNames → BindsOther i name
  | variant {d : Enumeration} {v : Variant} : .enumeration d ∈ i.items → isFlat d = false →
      v ∈ d.variants → BindsOther i (d.name ++ v.name)
  | function {f : Function} : .function f ∈ i.items → BindsOther i (ident f.name)

/-- What is bound besides types: imports, constants, variants and functions. -/
theorem bindsOther_iff {n : String} :
    BindsOther i n ↔ n ∈ standardNames ∨ n ∈ constantNames ∨
      (∃ d ∈ i.enumerations.values.filter (!isFlat ·),
        ∃ v ∈ d.variants, d.name ++ v.name = n) ∨
      ∃ f ∈ i.functions.values, ident f.name = n := by
  simp only [List.mem_filter, Bool.not_eq_true']
  constructor
  · rintro (hn | hn | ⟨hd, hflat, hv⟩ | hf)
    · exact .inl hn
    · exact .inr (.inl hn)
    · exact .inr (.inr (.inl ⟨_, ⟨Interface.mem_items_iff_lists.1 hd, hflat⟩, _, hv, rfl⟩))
    · exact .inr (.inr (.inr ⟨_, Interface.mem_items_iff_lists.1 hf, rfl⟩))
  · rintro (hn | hn | ⟨d, ⟨hd, hflat⟩, v, hv, rfl⟩ | ⟨f, hf, rfl⟩)
    · exact .standard hn
    · exact .constant hn
    · exact .variant (Interface.mem_items_iff_lists.2 hd) hflat hv
    · exact .function (Interface.mem_items_iff_lists.2 hf)

theorem exists_denotes_iff {n : String} :
    (∃ id, Denotes i n id) ↔ (∃ e ∈ i.externals, e.name = n) ∨
      (∃ r ∈ i.records.values, r.name = n) ∨
      (∃ d ∈ i.enumerations.values.filter isFlat, d.name = n) ∨
      (∃ d ∈ i.enumerations.values.filter (!isFlat ·), d.name = n) ∨
      (∃ o ∈ i.objects.values, o.name = n) ∨ (∃ c ∈ i.callbacks.values, c.name = n) ∨
      ∃ c ∈ i.customs.values, c.name = n := by
  have hdeclared : (∃ item ∈ i.items, ∃ kind, item.slot? = some (.declaration kind n)) ↔
      (∃ r ∈ i.records.values, r.name = n) ∨ (∃ d ∈ i.enumerations.values, d.name = n) ∨
      (∃ o ∈ i.objects.values, o.name = n) ∨ (∃ c ∈ i.callbacks.values, c.name = n) ∨
      ∃ c ∈ i.customs.values, c.name = n := by
    simp [Interface.exists_mem_items_iff, Item.slot?]
  rw [← exists_filter_or i.enumerations.values isFlat, or_assoc] at hdeclared
  rw [← hdeclared]
  constructor
  · rintro ⟨id, he | ⟨hitem, hslot⟩⟩
    · exact .inl ⟨_, he, rfl⟩
    · exact .inr ⟨_, hitem, _, hslot⟩
  · rintro (⟨e, he, rfl⟩ | ⟨item, hitem, kind, hslot⟩)
    · exact ⟨_, .imported he⟩
    · exact ⟨_, .declared hitem hslot⟩

/-- The names of references are bound by imports. -/
theorem mem_binds_imports (hrenamed : ∀ n, s.renamed n = n) {n : String} :
    .name n ∈ (Statement.packageImports (packages (imports s i))).binds ↔
      ∃ e ∈ i.externals, e.name = n := by
  have hblock : .name n ∈ (Statement.packageImports (packages (imports s i))).binds ↔
      ∃ package, Imports (packages (imports s i)) package n := by
    simp [Statement.binds, Imports]
  rw [hblock]
  simp only [imports_packages_iff, imports, List.mem_map, hrenamed, Prod.mk.injEq]
  constructor
  · rintro ⟨_, e, he, -, hname⟩
    exact ⟨e, he, hname⟩
  · rintro ⟨e, he, hname⟩
    exact ⟨_, e, he, rfl, hname⟩

theorem mem_binds_map {α : Type} {xs : List α} {f : α → Statement} (nameOf : α → String)
    (hf : ∀ x, (f x).binds = [.name (nameOf x)]) {n : String} :
    .name n ∈ (xs.map f).flatMap Statement.binds ↔ ∃ x ∈ xs, nameOf x = n := by
  simp [List.flatMap_map, hf, eq_comm]

/-- The names that a stub binds are those that denote a type and the others. -/
theorem mem_binds_iff (hrenamed : ∀ n, s.renamed n = n) {n : String} :
    .name n ∈ (statements s i space).flatMap Statement.binds ↔
      BindsOther i n ∨ ∃ id, Denotes i n id := by
  have hheading : .name n ∈ (heading i).flatMap Statement.binds ↔ n ∈ standardNames := by
    simp [heading, Statement.binds]
  have hconstants : .name n ∈ (Statement.constants space s.cdylibName).binds ↔
      n ∈ constantNames := by
    simp [Statement.binds, constantNames]
  have haliases : .name n ∈ (aliases s i).flatMap Statement.binds ↔
      ∃ c ∈ i.customs.values, c.name = n :=
    mem_binds_map CustomType.name fun c => by simp [Statement.binds, hrenamed]
  have hflat : .name n ∈ (flatClasses s i).flatMap Statement.binds ↔
      ∃ d ∈ i.enumerations.values.filter isFlat, d.name = n := by
    simp only [flatClasses, mem_binds_flat, hrenamed, Target.name.injEq, reduceCtorEq, and_false,
      exists_false, or_false, eq_comm]
  have hrecords : .name n ∈ (recordClasses s i).flatMap Statement.binds ↔
      ∃ r ∈ i.records.values, r.name = n :=
    mem_binds_map Record.name fun r => by simp [recordStatement, Statement.binds, hrenamed]
  have htrees : .name n ∈ (treeClasses s i).flatMap Statement.binds ↔
      (∃ d ∈ i.enumerations.values.filter (!isFlat ·), d.name = n) ∨
        ∃ d ∈ i.enumerations.values.filter (!isFlat ·), ∃ v ∈ d.variants, d.name ++ v.name = n := by
    simp only [treeClasses, mem_binds_trees, hrenamed, Target.name.injEq, reduceCtorEq, or_false,
      ← exists_or, ← and_or_left, eq_comm]
  have hobjects : .name n ∈ (objectClasses s i).flatMap Statement.binds ↔
      ∃ o ∈ i.objects.values, o.name = n :=
    mem_binds_map Object.name fun o => by simp [objectStatement, Statement.binds, hrenamed]
  have hcallbacks : .name n ∈ (callbackClasses s i).flatMap Statement.binds ↔
      ∃ c ∈ i.callbacks.values, c.name = n :=
    mem_binds_map CallbackInterface.name fun c => by
      simp [callbackStatement, Statement.binds, hrenamed]
  have hfunctions : .name n ∈ (functions s i).flatMap Statement.binds ↔
      ∃ f ∈ i.functions.values, ident f.name = n :=
    mem_binds_map (fun f : Function => ident f.name) fun f => rfl
  rw [exists_denotes_iff, bindsOther_iff, statements_eq, declarations]
  simp only [List.flatMap_append, List.flatMap_cons, List.mem_append, hheading,
    mem_binds_imports hrenamed, hconstants, haliases, hflat, hrecords, htrees, hobjects,
    hcallbacks, hfunctions]
  exact iff_of_eq (by ac_rfl)

/-- Whatever type a stub writes, its name is bound to that type and to nothing else, and no name is
bound to two types. -/
structure Unambiguous (i : Interface) : Prop where
  denotes : ∀ ty, Writes i ty → ∀ id ∈ ty.shown, ∀ id', Denotes i id.name id' ↔ id' = id
  types : ∀ ty, Writes i ty → ∀ id ∈ ty.shown, ¬BindsOther i id.name
  apart : ∀ name id id', Denotes i name id → Denotes i name id' → id = id'

/-- The types of an interface are told apart by their names. A type that is written is declared
under its module path or imported. References of one name have one module path, and a declaration
has the name of a reference only together with its module path. Nothing else has the name of a type
that is written. -/
structure Distinct (i : Interface) : Prop where
  known : ∀ ty, Writes i ty → ∀ id ∈ ty.shown, Denotes i id.name id
  imported : ∀ e ∈ i.externals, ∀ e' ∈ i.externals, e.name = e'.name →
    e.modulePath = e'.modulePath
  declared : ∀ e ∈ i.externals, ∀ item ∈ i.items, ∀ kind,
    item.slot? = some (.declaration kind e.name) → item.modulePath = e.modulePath
  other : ∀ ty, Writes i ty → ∀ id ∈ ty.shown, ¬BindsOther i id.name

/-- A name denotes types of that name. -/
theorem Denotes.name_eq {n : String} {id : Ident} (h : Denotes i n id) : id.name = n := by
  cases h <;> rfl

/-- No name is bound to two types if none is bound to two of which one is imported. -/
theorem apart_iff (hi : i.WellFormed) :
    (∀ name id id', Denotes i name id → Denotes i name id' → id = id') ↔
      (∀ e ∈ i.externals, ∀ e' ∈ i.externals, e.name = e'.name → e.modulePath = e'.modulePath) ∧
        ∀ e ∈ i.externals, ∀ item ∈ i.items, ∀ kind,
          item.slot? = some (.declaration kind e.name) → item.modulePath = e.modulePath := by
  constructor
  · intro hapart
    refine ⟨fun e he e' he' hname => ?_, fun e he item hitem kind hslot => ?_⟩
    · have he'' : Denotes i e.name e'.ident := hname ▸ .imported he'
      exact congrArg Ident.modulePath (hapart _ _ _ (.imported he) he'')
    · exact congrArg Ident.modulePath (hapart _ _ _ (.declared hitem hslot) (.imported he))
  · rintro ⟨himported, hdeclared⟩ name id id' hid hid'
    have hsame : id.modulePath = id'.modulePath := by
      cases hid with
      | imported he =>
        generalize hname : External.name _ = name at hid'
        cases hid' with
        | imported he' => exact himported _ he _ he' hname
        | declared hitem hslot => exact (hdeclared _ he _ hitem _ (hname ▸ hslot)).symm
      | declared hitem hslot =>
        cases hid' with
        | imported he' => exact hdeclared _ he' _ hitem _ hslot
        | declared hitem' hslot' =>
          rw [hi.coherent.names _ hitem _ hitem' _ _ _ hslot hslot']
    obtain ⟨path, n⟩ := id
    obtain ⟨path', n'⟩ := id'
    obtain rfl := hid.name_eq
    obtain rfl := hid'.name_eq
    exact congrArg (Ident.mk · n') hsame

/-- Names are unambiguous exactly if the types and the other names are distinct. -/
theorem unambiguous_iff_distinct (hi : i.WellFormed) : Unambiguous i ↔ Distinct i := by
  constructor
  · intro h
    obtain ⟨himported, hdeclared⟩ := (apart_iff hi).1 h.apart
    exact ⟨fun ty hty id hid => (h.denotes ty hty id hid id).2 rfl, himported, hdeclared, h.types⟩
  · intro h
    have hapart := (apart_iff hi).2 ⟨h.imported, h.declared⟩
    refine ⟨fun ty hty id hid id' => ⟨fun hid' => ?_, ?_⟩, h.other, hapart⟩
    · exact hapart _ _ _ hid' (h.known ty hty id hid)
    · rintro rfl
      exact h.known ty hty id' hid

/-- For a stub without renaming: its annotations are those of the types that it writes, with the
bare names of the types that these show, and the names that it binds are those of types and the
others. The names are unambiguous exactly if they tell the types of the interface apart. -/
theorem names_unambiguous_iff (hrenames : s.renames = .empty) (library : String)
    (steps : List Interface.Step)
    (hspace : ((Interface.empty library).run steps).space = some space) :
    let i := (Interface.empty library).run steps
    render s i = .ok (fileText ((statements s i space).flatMap Statement.lines)) ∧
      (∀ a, a ∈ (statements s i space).flatMap Statement.annotations ↔
        ∃ ty, Writes i ty ∧ .ofTy s ty = a) ∧
      (∀ ty, Annotation.typeNames (.ofTy s ty) = ty.shown.map Ident.name) ∧
      (∀ n, .name n ∈ (statements s i space).flatMap Statement.binds ↔
        BindsOther i n ∨ ∃ id, Denotes i n id) ∧
      (Unambiguous i ↔ Distinct i) := by
  intro i
  have hrenamed : ∀ n, s.renamed n = n := by simp [Section.renamed, hrenames]
  have hi : i.WellFormed := Interface.wellFormed_run library steps
  refine ⟨render_eq s i hspace, fun a => mem_annotations_iff hi, fun ty => ?_,
    fun n => mem_binds_iff hrenamed, unambiguous_iff_distinct hi⟩
  simp only [typeNames_ofTy, hrenamed]

/-- A record with a record of another library in it. -/
def nestedItems (name : String) : List Item := [
  .space ⟨"a", "one"⟩, .space ⟨"b", "two"⟩,
  .record { modulePath := "b", name := "R", fields := [{ name := "x", ty := .primitive .string }] },
  .record { modulePath := "a", name := name, fields := [{ name := "r", ty := .record "b" "R" }] }]

def nestedGroup (name : String) : Group :=
  (((GroupMap.ofItems (nestedItems name)).toOption.getD .empty).get? "a").getD
    { space := ⟨"a", "one"⟩, items := [], nodup := .nil }

def nestedInterface (name : String) : Interface :=
  (Interface.empty "a").run [.add (.group (nestedGroup name))]

/-- What stands in the place of the record of the other library. -/
def nestedReference : External :=
  { namespaceName := "two", modulePath := "b", name := "R", kind := .dataClass
    holdsObjects := false }

def nestedRecord (name : String) : Record where
  modulePath := "a"
  name := name
  fields := [{ name := "r", ty := .external nestedReference }]

theorem items_nested : (nestedInterface "P").items = [.record (nestedRecord "P")] := by
  decide +kernel

theorem externals_nested : (nestedInterface "P").externals = [nestedReference] := by
  decide +kernel

theorem ident_of_writes_nested {ty : Ty} (h : Writes (nestedInterface "P") ty) {id : Ident}
    (hid : id ∈ ty.shown) : id = nestedReference.ident := by
  cases h with
  | type hitem hty =>
    rw [items_nested, List.mem_singleton] at hitem
    subst hitem
    obtain rfl := List.mem_singleton.1 hty
    exact List.mem_singleton.1 hid
  | object hitem =>
    rw [items_nested, List.mem_singleton] at hitem
    cases hitem

theorem distinct_nested : Distinct (nestedInterface "P") where
  known := by
    intro ty hwrites id hid
    obtain rfl := ident_of_writes_nested hwrites hid
    exact .imported (by simp [externals_nested])
  imported := by simp [externals_nested]
  declared := by
    rw [externals_nested, items_nested]
    simp [Item.slot?, nestedRecord, nestedReference]
  other := by
    intro ty hwrites id hid
    obtain rfl := ident_of_writes_nested hwrites hid
    rw [bindsOther_iff]
    decide +kernel

theorem names_unambiguous_iff_nested :
    (nestedInterface "P").space = some "one" ∧ Unambiguous (nestedInterface "P") := by
  have hspace : (nestedInterface "P").space = some "one" := by decide +kernel
  have hnames := names_unambiguous_iff (s := plainSettings) rfl "a"
    [.add (.group (nestedGroup "P"))] hspace
  exact ⟨hspace, hnames.2.2.2.2.2 distinct_nested⟩

/-- Both records have the same name. It is imported for the one and bound again by the class of the
other. -/
theorem names_clash_nested :
    let i := nestedInterface "R"
    (GroupMap.ofItems (nestedItems "R")).toOption.bind (Table.get? · "a") =
        some (nestedGroup "R") ∧
      (Interface.empty "a").addGroups [nestedGroup "R"] = .ok i ∧
      i.space = some "one" ∧ plainSettings.renames = .empty ∧
      .packageImports [("two", ["R"])] ∈ statements plainSettings i "one" ∧
      .dataClass true "R" none none [{ name := "r", annotation := .named "R" }] ∈
        statements plainSettings i "one" ∧
      ¬Unambiguous i := by
  refine ⟨by decide +kernel, by decide +kernel, by decide +kernel, rfl, by decide +kernel,
    by decide +kernel, fun h => ?_⟩
  have himported : Denotes (nestedInterface "R") "R" nestedReference.ident :=
    have hreference : nestedReference ∈ (nestedInterface "R").externals := by decide +kernel
    .imported hreference
  have hdeclared : Denotes (nestedInterface "R") "R" ⟨"a", "R"⟩ :=
    have hitem : .record (nestedRecord "R") ∈ (nestedInterface "R").items := by decide +kernel
    .declared hitem rfl
  exact absurd (h.apart _ _ _ himported hdeclared) (by decide)

end Stub
end Bindery
