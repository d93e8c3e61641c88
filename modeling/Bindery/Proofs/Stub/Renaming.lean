import Bindery.Proofs.Interface.Renaming
import Bindery.Proofs.Stub.Imports
import Bindery.Proofs.Stub.Lines
/-!
# Stubs by other names

A stub with renaming beside the stub, without renaming, of the interface whose types go by the new
names.
-/
namespace Bindery

def Section.withoutRenames (s : Section) : Section := { s with renames := .empty }

namespace Stub

variable {s : Section} {i : Interface}

@[simp] theorem renamed_withoutRenames (name : String) : s.withoutRenames.renamed name = name := rfl

def Value.rename (ρ : String → String) : Value → Value
  | variant enumeration name => variant (ρ enumeration) name
  | missing => missing
  | flag value => flag value
  | text value => text value
  | bytes value => bytes value
  | plain spelling => plain spelling

def Attribute.renameDefault (ρ : String → String) (a : Attribute) : Attribute :=
  { a with default := a.default.map (Value.rename ρ) }

/-- Change the names of enumerations in the defaults of fields. -/
def Statement.renameDefaults (ρ : String → String) : Statement → Statement
  | dataClass hashable name base docs attributes =>
    dataClass hashable name base docs (attributes.map (Attribute.renameDefault ρ))
  | other => other

/-- An annotation is written alike with the type renamed before. -/
theorem ofTy_rename (ty : Ty) :
    Annotation.ofTy s.withoutRenames (ty.rename s.renamed) = Annotation.ofTy s ty := by
  induction ty with
  | primitive | object | record | enumeration | callback | custom | external => rfl
  | optional inner ih => exact congrArg Annotation.optional ih
  | sequence inner ih => exact congrArg Annotation.sequence ih
  | map key value ihKey ihValue => exact congrArg₂ Annotation.map ihKey ihValue

/-- A default is renamed with its type. -/
theorem ofDefault_rename (ρ : String → String) (ty : Ty) :
    Value.ofDefault (ty.rename ρ) = Value.rename ρ ∘ Value.ofDefault ty := by
  have hrequired : Value.requiredTy (ty.rename ρ) = (Value.requiredTy ty).rename ρ := by
    cases ty <;> rfl
  funext value
  rw [Function.comp_apply, Value.ofDefault, Value.ofDefault, hrequired]
  generalize Value.requiredTy ty = required
  cases required with
  | primitive kind =>
    cases kind <;> simp only [Ty.rename, apply_ite (Value.rename ρ)] <;> rfl
  | _ =>
    simp only [Ty.rename, apply_ite (Value.rename ρ)]
    rfl

/-- An attribute is written alike but for the enumeration its default names. -/
theorem attributeOf_rename (f : Field) :
    attributeOf s.withoutRenames (f.mapType (Ty.rename s.renamed)) =
      (attributeOf s f).renameDefault s.renamed := by
  simp [attributeOf, Attribute.renameDefault, Field.mapType, ofTy_rename, ofDefault_rename]

theorem attributesOf_rename (fields : List Field) :
    attributesOf s.withoutRenames (fields.map (Field.mapType (Ty.rename s.renamed))) =
      (attributesOf s fields).map (Attribute.renameDefault s.renamed) := by
  have hnone : (fun f : Field => f.default.isNone) ∘ Field.mapType (Ty.rename s.renamed) =
      fun f => f.default.isNone := rfl
  have hsome : (fun f : Field => f.default.isSome) ∘ Field.mapType (Ty.rename s.renamed) =
      fun f => f.default.isSome := rfl
  simp only [attributesOf, List.filter_map, hnone, hsome, List.map_append, List.map_map,
    Function.comp_def, attributeOf_rename]

theorem paramsOf_rename (inputs : List Param) :
    paramsOf s.withoutRenames (inputs.map (Param.mapType (Ty.rename s.renamed))) =
      paramsOf s inputs := by
  simp [paramsOf, Param.mapType, ofTy_rename]

theorem ofTy_comp_rename :
    Annotation.ofTy s.withoutRenames ∘ Ty.rename s.renamed = Annotation.ofTy s :=
  funext ofTy_rename

theorem functionOf_rename (f : Function) :
    functionOf s.withoutRenames (f.rename s.renamed) = functionOf s f := by
  simp [functionOf, Function.rename, paramsOf_rename, ofTy_comp_rename]

theorem constructorOf_rename (c : Constructor) :
    constructorOf s.withoutRenames (c.rename s.renamed) = constructorOf s c := by
  simp only [constructorOf, Constructor.rename, paramsOf_rename, Option.map_map, ofTy_comp_rename,
    renamed_withoutRenames]
  rfl

theorem methodOf_rename (m : Method) :
    methodOf s.withoutRenames (m.rename s.renamed) = methodOf s m := by
  simp [methodOf, Method.rename, paramsOf_rename, ofTy_comp_rename]

theorem traitMethodOf_rename (m : TraitMethod) :
    traitMethodOf s.withoutRenames (m.rename s.renamed) = traitMethodOf s m := by
  simp [traitMethodOf, TraitMethod.rename, paramsOf_rename, ofTy_comp_rename]

theorem isFlat_rename (ρ : String → String) (d : Enumeration) :
    isFlat (d.rename ρ) = isFlat d := by
  simp [isFlat, Enumeration.rename, Variant.mapTypes, Function.comp_def]

theorem flatStatement_rename (d : Enumeration) :
    flatStatement s.withoutRenames (d.rename s.renamed) = flatStatement s d := by
  simp [flatStatement, Enumeration.rename, Variant.mapTypes, Function.comp_def]

/-- A record is written alike but for its defaults. -/
theorem recordStatement_rename (hashable : Bool) (r : Record) :
    recordStatement s.withoutRenames hashable (r.rename s.renamed) =
      (recordStatement s hashable r).renameDefaults s.renamed := by
  simp [recordStatement, Record.rename, Statement.renameDefaults, attributesOf_rename]

theorem variantStatements_rename (name : String) (hashable : Bool) (v : Variant) :
    variantStatements s.withoutRenames name hashable (v.mapTypes (Ty.rename s.renamed)) =
      (variantStatements s name hashable v).map (Statement.renameDefaults s.renamed) := by
  simp [variantStatements, Variant.mapTypes, Statement.renameDefaults, attributesOf_rename]

/-- An enumeration is written alike but for the defaults of its variants. -/
theorem treeStatements_rename (hashable : Bool) (d : Enumeration) :
    treeStatements s.withoutRenames hashable (d.rename s.renamed) =
      (treeStatements s hashable d).map (Statement.renameDefaults s.renamed) := by
  simp [treeStatements, Enumeration.rename, Statement.renameDefaults, List.flatMap_map,
    List.map_flatMap, variantStatements_rename]

/-- A renamed class is hashable if the class was. -/
theorem isHashable_rename {item : Item} {ty : Ty} (hi : i.WellFormed) (hfresh : i.UpToDate)
    (hρ : i.TellsApart s.renamed) (hitem : item ∈ i.items) (hty : Interface.itemTy? item = some ty)
    {id : Ident} (hid : item.ident? = some id) :
    isHashable (i.renameTypes s.renamed) (ty.rename s.renamed) = isHashable i ty := by
  have hname := Interface.name_mem_typeNames_of_ident? hitem hid
  have hnames : ∀ t ∈ ty.occurrences, ∀ name ∈ t.typeName?, name ∈ i.typeNames := by
    cases item with
    | record r | enumeration e =>
      obtain rfl := Option.some.inj hid
      obtain rfl := Option.some.inj hty
      intro t ht name hmem
      obtain rfl := List.mem_singleton.1 ht
      obtain rfl := Option.some.inj hmem
      exact hname
    | _ => cases hid
  rw [isHashable, isHashable, Interface.holdsObjects_renameTypes hi hfresh hρ hnames]

theorem aliases_rename (h : Interface.TablesRenamed s.renamed i (i.renameTypes s.renamed)) :
    aliases s.withoutRenames (i.renameTypes s.renamed) =
      (aliases s i).map (Statement.renameDefaults s.renamed) := by
  rw [aliases, aliases, h.customs, List.map_map, List.map_map]
  exact List.map_congr_left fun c _ => congrArg (Statement.typeAlias _) (ofTy_rename c.builtin)

theorem flatClasses_rename (h : Interface.TablesRenamed s.renamed i (i.renameTypes s.renamed)) :
    flatClasses s.withoutRenames (i.renameTypes s.renamed) =
      (flatClasses s i).map (Statement.renameDefaults s.renamed) := by
  rw [flatClasses, flatClasses, h.enumerations, List.filter_map, List.map_map, List.map_map]
  have hflat : isFlat ∘ Enumeration.rename s.renamed = isFlat := funext (isFlat_rename s.renamed)
  rw [hflat]
  exact List.map_congr_left fun d _ => flatStatement_rename d

theorem recordClasses_rename (hi : i.WellFormed) (hfresh : i.UpToDate)
    (hρ : i.TellsApart s.renamed) :
    recordClasses s.withoutRenames (i.renameTypes s.renamed) =
      (recordClasses s i).map (Statement.renameDefaults s.renamed) := by
  rw [recordClasses, recordClasses, (Interface.tablesRenamed hi hρ).records, List.map_map,
    List.map_map]
  refine List.map_congr_left fun r hr => ?_
  have hitem : .record r ∈ i.items := Interface.mem_items_iff_lists.2 hr
  have hty : Interface.itemTy? (.record r) = some (Interface.recordTy r) := rfl
  rw [Function.comp_apply, Function.comp_apply, ← recordStatement_rename,
    ← isHashable_rename hi hfresh hρ hitem hty rfl]
  rfl

theorem treeClasses_rename (hi : i.WellFormed) (hfresh : i.UpToDate)
    (hρ : i.TellsApart s.renamed) :
    treeClasses s.withoutRenames (i.renameTypes s.renamed) =
      (treeClasses s i).map (Statement.renameDefaults s.renamed) := by
  have hflat : (fun d => !isFlat d) ∘ Enumeration.rename s.renamed = fun d => !isFlat d :=
    funext fun d => congrArg not (isFlat_rename s.renamed d)
  rw [treeClasses, treeClasses, (Interface.tablesRenamed hi hρ).enumerations, List.filter_map,
    hflat, List.flatMap_map, List.map_flatMap]
  refine List.flatMap_congr fun d hd => ?_
  have hitem : .enumeration d ∈ i.items :=
    Interface.mem_items_iff_lists.2 (List.mem_filter.1 hd).1
  have hty : Interface.itemTy? (.enumeration d) = some (Interface.enumerationTy d) := rfl
  rw [← treeStatements_rename, ← isHashable_rename hi hfresh hρ hitem hty rfl]
  rfl

/-- Objects are written alike but for their defaults. -/
theorem objectClasses_rename (hi : i.WellFormed) (hρ : i.TellsApart s.renamed) :
    objectClasses s.withoutRenames (i.renameTypes s.renamed) =
      (objectClasses s i).map (Statement.renameDefaults s.renamed) := by
  rw [objectClasses, objectClasses, (Interface.tablesRenamed hi hρ).objects, List.map_map,
    List.map_map]
  refine List.map_congr_left fun o ho => ?_
  have hitem : .object o ∈ i.items := Interface.mem_items_iff_lists.2 ho
  have howner : o.name ∈ i.typeNames := Interface.mem_typeNames_of_slot? hitem rfl rfl
  have hname : (o.rename s.renamed).name = s.renamed o.name := rfl
  simp only [Function.comp_apply, objectStatement, hname, renamed_withoutRenames,
    Interface.constructorsOf_renameTypes hi hρ howner,
    Interface.methodsOf_renameTypes hi hρ howner,
    Interface.traitMethodsOf_renameTypes hi hρ howner, List.map_map, Function.comp_def,
    constructorOf_rename, methodOf_rename, traitMethodOf_rename]
  rfl

theorem callbackClasses_rename (hi : i.WellFormed) (hρ : i.TellsApart s.renamed) :
    callbackClasses s.withoutRenames (i.renameTypes s.renamed) =
      (callbackClasses s i).map (Statement.renameDefaults s.renamed) := by
  rw [callbackClasses, callbackClasses, (Interface.tablesRenamed hi hρ).callbacks, List.map_map,
    List.map_map]
  refine List.map_congr_left fun c hc => ?_
  have hitem : .callback c ∈ i.items := Interface.mem_items_iff_lists.2 hc
  have howner : c.name ∈ i.typeNames := Interface.mem_typeNames_of_slot? hitem rfl rfl
  have hname : (c.rename s.renamed).name = s.renamed c.name := rfl
  simp only [Function.comp_apply, callbackStatement, hname, renamed_withoutRenames,
    Interface.traitMethodsOf_renameTypes hi hρ howner, List.map_map, Function.comp_def,
    traitMethodOf_rename]
  rfl

theorem functions_rename (h : Interface.TablesRenamed s.renamed i (i.renameTypes s.renamed)) :
    functions s.withoutRenames (i.renameTypes s.renamed) =
      (functions s i).map (Statement.renameDefaults s.renamed) := by
  rw [functions, functions, h.functions, List.map_map, List.map_map]
  exact List.map_congr_left fun f _ => congrArg Statement.function (functionOf_rename f)

/-- The declarations by the new names, in which the defaults have the new names too. -/
theorem declarations_rename (hi : i.WellFormed) (hfresh : i.UpToDate)
    (hρ : i.TellsApart s.renamed) :
    declarations s.withoutRenames (i.renameTypes s.renamed) =
      (declarations s i).map (Statement.renameDefaults s.renamed) := by
  have h := Interface.tablesRenamed hi hρ
  simp only [declarations, List.map_append, aliases_rename h, flatClasses_rename h,
    recordClasses_rename hi hfresh hρ, treeClasses_rename hi hfresh hρ,
    objectClasses_rename hi hρ, callbackClasses_rename hi hρ, functions_rename h]

/-- The same imports are wanted after a renaming. -/
theorem wanted_rename (hi : i.WellFormed) (hρ : i.TellsApart s.renamed) {package name : String} :
    Wanted s.withoutRenames (i.renameTypes s.renamed) package name ↔ Wanted s i package name := by
  simp only [wanted_iff, Interface.items_renameTypes hi hρ, List.mem_map, exists_exists_and_eq_and,
    Item.occurrences_rename]
  refine exists_congr fun item => and_congr_right fun _ => ?_
  constructor
  · rintro ⟨_, ⟨ty, hty, heq⟩, rfl, rfl⟩
    cases ty with
    | external e =>
      cases heq
      exact ⟨e, hty, rfl, rfl⟩
    | _ => cases heq
  · rintro ⟨e, he, rfl, rfl⟩
    exact ⟨e.rename s.renamed, ⟨_, he, rfl⟩, rfl, rfl⟩

/-- The stub of the interface by the new names is the stub with renaming, except that the defaults
have the new names too. -/
theorem statements_rename (hi : i.WellFormed) (hfresh : i.UpToDate) (hρ : i.TellsApart s.renamed)
    (name : String) :
    statements s.withoutRenames (i.renameTypes s.renamed) name =
      (statements s i name).map (Statement.renameDefaults s.renamed) := by
  have himports : packages (imports s.withoutRenames (i.renameTypes s.renamed)) =
      packages (imports s i) :=
    packages_congr fun wanted =>
      mem_imports_iff.trans ((wanted_rename hi hρ).trans mem_imports_iff.symm)
  rw [statements_eq, statements_eq, himports, declarations_rename hi hfresh hρ, List.map_append,
    List.map_cons, List.map_cons]
  rfl

/-- The fields of the class that a statement makes. -/
def Statement.attributes : Statement → List Attribute
  | dataClass _ _ _ _ attributes => attributes
  | _ => []

theorem map_eq_self_iff {α : Type} {f : α → α} {xs : List α} :
    xs.map f = xs ↔ ∀ x ∈ xs, f x = x := by
  conv_lhs => rhs; rw [← List.map_id xs]
  exact List.map_inj_left

theorem renameDefault_eq_self_iff {ρ : String → String} {a : Attribute} :
    a.renameDefault ρ = a ↔ ∀ e v, a.default = some (.variant e v) → ρ e = e := by
  obtain ⟨name, annotation, default⟩ := a
  cases default with
  | none => simp [Attribute.renameDefault]
  | some value => cases value <;> simp [Attribute.renameDefault, Value.rename]

/-- The defaults of a statement keep their names if the enumerations that they name do. -/
theorem renameDefaults_eq_self_iff {ρ : String → String} {statement : Statement} :
    statement.renameDefaults ρ = statement ↔
      ∀ a ∈ statement.attributes, ∀ e v, a.default = some (.variant e v) → ρ e = e := by
  cases statement with
  | dataClass =>
    simp [Statement.renameDefaults, Statement.attributes, map_eq_self_iff,
      renameDefault_eq_self_iff]
  | _ => simp [Statement.renameDefaults, Statement.attributes]

theorem attributes_statements (name : String) :
    (statements s i name).flatMap Statement.attributes =
      (i.records.values.flatMap fun r => attributesOf s r.fields) ++
        (i.enumerations.values.filter (!isFlat ·)).flatMap fun d =>
          d.variants.flatMap fun v => attributesOf s v.fields := by
  have hnone {α : Type} (xs : List α) : xs.flatMap (fun _ => ([] : List Attribute)) = [] :=
    List.flatMap_eq_nil_iff.2 fun _ _ => rfl
  simp [statements_eq, heading, declarations, aliases, flatClasses, recordClasses, treeClasses,
    objectClasses, callbackClasses, functions, flatStatement, recordStatement, treeStatements,
    variantStatements, objectStatement, callbackStatement, Statement.attributes,
    List.flatMap_map, List.flatMap_assoc, hnone]

/-- The fields of the classes in a stub are the fields of the interface. -/
theorem exists_attribute_iff {a : Attribute} {name : String} :
    (∃ statement ∈ statements s i name, a ∈ statement.attributes) ↔
      ∃ f ∈ i.fields, attributeOf s f = a := by
  rw [← List.mem_flatMap, attributes_statements]
  simp only [List.mem_append, List.mem_flatMap, List.mem_filter, mem_attributesOf_iff,
    Interface.fields]
  constructor
  · rintro (⟨r, hr, f, hf, rfl⟩ | ⟨d, ⟨hd, -⟩, v, hv, f, hf, rfl⟩)
    · exact ⟨f, .inl ⟨r, hr, hf⟩, rfl⟩
    · exact ⟨f, .inr ⟨d, hd, v, hv, hf⟩, rfl⟩
  · rintro ⟨f, ⟨r, hr, hf⟩ | ⟨d, hd, v, hv, hf⟩, rfl⟩
    · exact .inl ⟨r, hr, f, hf, rfl⟩
    · have hflat : isFlat d = false := by
        have hfields : v.fields.isEmpty = false := by
          rw [List.isEmpty_eq_false_iff]
          exact List.ne_nil_of_mem hf
        simp only [isFlat, Bool.and_eq_false_iff, List.all_eq_false]
        exact .inr ⟨v, hv, by simp [hfields]⟩
      exact .inr ⟨d, ⟨hd, by simp [hflat]⟩, v, hv, f, hf, rfl⟩

/-- The stubs agree exactly where no default names an enumeration whose name is changed. -/
theorem statements_rename_eq_iff (hi : i.WellFormed) (hfresh : i.UpToDate)
    (hρ : i.TellsApart s.renamed) (name : String) :
    statements s.withoutRenames (i.renameTypes s.renamed) name = statements s i name ↔
      ∀ f ∈ i.fields, ∀ m ∈ defaultMember? f, s.renamed m.enumeration = m.enumeration := by
  simp only [statements_rename hi hfresh hρ, map_eq_self_iff, renameDefaults_eq_self_iff]
  constructor
  · intro h f hf ⟨e, v⟩ hm
    obtain ⟨statement, hstatement, ha⟩ := exists_attribute_iff.2 ⟨f, hf, rfl⟩
    exact h statement hstatement _ ha e v (defaultMember?_eq_some_iff.1 hm)
  · intro h statement hstatement a ha e v hdefault
    obtain ⟨f, hf, rfl⟩ := exists_attribute_iff.1 ⟨statement, hstatement, ha⟩
    exact h f hf ⟨e, v⟩ (defaultMember?_eq_some_iff.2 hdefault)

section

variable {ρ : String → String}

/-- A default that is written alike names an enumeration that keeps its name. -/
theorem renameDefault_eq_of_line {a : Attribute} (h : (a.renameDefault ρ).line = a.line) :
    a.renameDefault ρ = a := by
  obtain ⟨name, annotation, default⟩ := a
  cases default with
  | none => rfl
  | some value =>
    have hspelling : (value.rename ρ).spelling = value.spelling := by
      simpa [Attribute.line, Attribute.renameDefault, line] using h
    cases value with
    | variant enumeration name =>
      have hname : ρ enumeration = enumeration := by
        simpa [Value.rename, Value.spelling] using hspelling
      rw [Attribute.renameDefault, Option.map_some, Value.rename, hname]
    | _ => rfl

theorem length_lines_renameDefaults (statement : Statement) :
    (statement.renameDefaults ρ).lines.length = statement.lines.length := by
  cases statement with
  | dataClass _ _ _ _ attributes =>
    cases attributes <;> simp [Statement.renameDefaults, Statement.lines, classBody]
  | _ => rfl

/-- Defaults that are written alike name enumerations that keep their names. -/
theorem renameDefaults_eq_of_lines {statement : Statement}
    (h : (statement.renameDefaults ρ).lines = statement.lines) :
    statement.renameDefaults ρ = statement := by
  cases statement with
  | dataClass hashable name base docs attributes =>
    have hlines : (attributes.map (Attribute.renameDefault ρ)).map Attribute.line =
        attributes.map Attribute.line := by
      cases attributes with
      | nil => rfl
      | cons a as => simpa [Statement.renameDefaults, Statement.lines, classBody] using h
    rw [List.map_map, List.map_inj_left] at hlines
    rw [Statement.renameDefaults,
      map_eq_self_iff.2 fun a ha => renameDefault_eq_of_line (hlines a ha)]
  | _ => rfl

variable {statements : List Statement}

theorem lengths_lines_renameDefaults :
    ((statements.map (Statement.renameDefaults ρ)).map Statement.lines).map List.length =
      (statements.map Statement.lines).map List.length := by
  simp [Function.comp_def, length_lines_renameDefaults]

/-- The lines of a stub say which names its defaults have, since the statements keep their numbers
of lines. -/
theorem lines_renameDefaults_eq_iff :
    (statements.map (Statement.renameDefaults ρ)).flatMap Statement.lines =
        statements.flatMap Statement.lines ↔
      statements.map (Statement.renameDefaults ρ) = statements := by
  refine ⟨fun h => ?_, fun h => by rw [h]⟩
  have hlines := List.eq_iff_flatten_eq.2 ⟨h, lengths_lines_renameDefaults⟩
  rw [List.map_map, List.map_inj_left] at hlines
  exact map_eq_self_iff.2 fun statement hmem => renameDefaults_eq_of_lines (hlines statement hmem)

end

/-- The texts agree where the stubs do, and only there if no line is broken. -/
theorem render_rename_eq_iff (hi : i.WellFormed) (hfresh : i.UpToDate)
    (hρ : i.TellsApart s.renamed) {name : String} (hname : i.space = some name)
    (hlines : Unbroken ((statements s i name).flatMap Statement.lines))
    (hlines' : Unbroken ((statements s.withoutRenames (i.renameTypes s.renamed) name).flatMap
      Statement.lines)) :
    render s.withoutRenames (i.renameTypes s.renamed) = render s i ↔
      ∀ f ∈ i.fields, ∀ m ∈ defaultMember? f, s.renamed m.enumeration = m.enumeration := by
  have hname' : (i.renameTypes s.renamed).space = some name := hname
  have hstatements := statements_rename hi hfresh hρ name
  rw [← statements_rename_eq_iff hi hfresh hρ name, render_eq _ _ hname',
    render_eq _ _ hname]
  constructor
  · intro h
    have hlength : ((statements s.withoutRenames (i.renameTypes s.renamed) name).flatMap
        Statement.lines).length = ((statements s i name).flatMap Statement.lines).length := by
      rw [hstatements, List.flatMap_def, List.length_flatten, lengths_lines_renameDefaults,
        ← List.length_flatten, ← List.flatMap_def]
    have heq := fileText_inj hlines' hlines hlength (Except.ok.inj h)
    rw [hstatements] at heq ⊢
    exact lines_renameDefaults_eq_iff.1 heq
  · intro h
    rw [h]

/-- For new names that tell the types of an interface apart: the interface by the new names is well
formed and has the same definitions in the same order, and its stub without renaming is the stub
with renaming except that the defaults of fields have the new names of enumerations too. So these
stubs agree exactly if no default names an enumeration whose name is changed. Their texts agree
then, and only then if no line is broken. -/
theorem renaming_uniform_iff (s : Section) (library : String) (steps : List Interface.Step)
    (hρ : ((Interface.empty library).run steps).TellsApart s.renamed) :
    let i := (Interface.empty library).run steps
    let renamed := i.renameTypes s.renamed
    let unchanged := ∀ f ∈ i.fields, ∀ m ∈ defaultMember? f,
      s.renamed m.enumeration = m.enumeration
    renamed.WellFormed ∧ Interface.TablesRenamed s.renamed i renamed ∧
      (∀ name, statements s.withoutRenames renamed name =
        (statements s i name).map (Statement.renameDefaults s.renamed)) ∧
      (∀ name, statements s.withoutRenames renamed name = statements s i name ↔ unchanged) ∧
      (unchanged → render s.withoutRenames renamed = render s i) ∧
      ∀ name, i.space = some name →
        Unbroken ((statements s i name).flatMap Statement.lines) →
        Unbroken ((statements s.withoutRenames renamed name).flatMap Statement.lines) →
        (render s.withoutRenames renamed = render s i ↔ unchanged) := by
  intro i renamed unchanged
  have hi : i.WellFormed := Interface.wellFormed_run library steps
  have hfresh : i.UpToDate := Interface.upToDate_run library steps
  refine ⟨Interface.wellFormed_renameTypes hi hρ, Interface.tablesRenamed hi hρ,
    statements_rename hi hfresh hρ, statements_rename_eq_iff hi hfresh hρ, ?_,
    fun name hname => render_rename_eq_iff hi hfresh hρ hname⟩
  intro hunchanged
  have hstatements : statements s.withoutRenames renamed = statements s i :=
    funext fun name => (statements_rename_eq_iff hi hfresh hρ name).2 hunchanged
  have hname : renamed.namespaceName = i.namespaceName := rfl
  rw [render, render, hstatements, hname]

/-- A record with a default that names an enumeration, beside a class with members and an alias of
a type of another library. -/
def coloredItems : List Item := [
  .custom { modulePath := "a", name := "Alias"
            builtin := .external
              { namespaceName := "two", modulePath := "b", name := "Other", kind := .dataClass } },
  .enumeration { modulePath := "a", name := "Color", variants := [{ name := "Red" }] },
  .record { modulePath := "a", name := "R"
            fields := [{ name := "c", ty := .enumeration "a" "Color", default := some "Red" }] },
  .object { modulePath := "a", name := "Session" },
  .constructor { modulePath := "a", owner := "Session", name := "open"
                 inputs := [{ name := "r", ty := .record "a" "R" }] }]

def coloredGroup : Group where
  space := ⟨"a", "one"⟩
  items := coloredItems
  nodup := by decide

def coloredInterface : Interface := (Interface.empty "a").run [.add (.group coloredGroup)]

/-- New names for all types but the enumeration. -/
def otherNames : Section where
  language := "python"
  renames := .ofList [("R", "Record"), ("Session", "S"), ("Other", "Third"), ("Alias", "Other")]

theorem renaming_uniform_iff_otherNames :
    coloredInterface.TellsApart otherNames.renamed ∧
      (let renamed := coloredInterface.renameTypes otherNames.renamed
        let unchanged := ∀ f ∈ coloredInterface.fields, ∀ m ∈ defaultMember? f,
          otherNames.renamed m.enumeration = m.enumeration
        renamed.WellFormed ∧ Interface.TablesRenamed otherNames.renamed coloredInterface renamed ∧
          (∀ name, statements otherNames.withoutRenames renamed name =
            (statements otherNames coloredInterface name).map
              (Statement.renameDefaults otherNames.renamed)) ∧
          (∀ name, statements otherNames.withoutRenames renamed name =
            statements otherNames coloredInterface name ↔ unchanged) ∧
          (unchanged → render otherNames.withoutRenames renamed =
            render otherNames coloredInterface) ∧
          ∀ name, coloredInterface.space = some name →
            Unbroken ((statements otherNames coloredInterface name).flatMap Statement.lines) →
            Unbroken ((statements otherNames.withoutRenames renamed name).flatMap
              Statement.lines) →
            (render otherNames.withoutRenames renamed = render otherNames coloredInterface ↔
              unchanged)) ∧
      ∀ f ∈ coloredInterface.fields, ∀ m ∈ defaultMember? f,
        otherNames.renamed m.enumeration = m.enumeration := by
  have hdistinct : ∀ m ∈ coloredInterface.typeNames, ∀ n ∈ coloredInterface.typeNames,
      otherNames.renamed m = otherNames.renamed n → m = n := by decide +kernel
  have hρ : coloredInterface.TellsApart otherNames.renamed := fun m hm n hn => hdistinct m hm n hn
  exact ⟨hρ, renaming_uniform_iff otherNames "a" [.add (.group coloredGroup)] hρ,
    by decide +kernel⟩

/-- A new name for the enumeration. -/
def enumerationRenamed : Section where
  language := "python"
  renames := .ofList [("Color", "Colour")]

/-- The field has the new name in its annotation and the former one in its default. -/
theorem default_keeps_name :
    (∀ m ∈ coloredInterface.typeNames, ∀ n ∈ coloredInterface.typeNames,
        enumerationRenamed.renamed m = enumerationRenamed.renamed n → m = n) ∧
      .dataClass true "R" none none
        [{ name := "c", annotation := .named "Colour", default := some (.variant "Color" "Red") }] ∈
        declarations enumerationRenamed coloredInterface ∧
      render enumerationRenamed coloredInterface ≠
        render enumerationRenamed.withoutRenames
          (coloredInterface.renameTypes enumerationRenamed.renamed) := by
  have hdistinct : ∀ m ∈ coloredInterface.typeNames, ∀ n ∈ coloredInterface.typeNames,
      enumerationRenamed.renamed m = enumerationRenamed.renamed n → m = n := by decide +kernel
  refine ⟨hdistinct, by decide +kernel, fun heq => ?_⟩
  have hchanged : ¬ ∀ f ∈ coloredInterface.fields, ∀ m ∈ defaultMember? f,
      enumerationRenamed.renamed m.enumeration = m.enumeration := by decide +kernel
  exact hchanged ((render_rename_eq_iff (Interface.wellFormed_run "a" [.add (.group coloredGroup)])
    (Interface.upToDate_run "a" [.add (.group coloredGroup)])
    (fun m hm n hn => hdistinct m hm n hn) rfl (by decide +kernel) (by decide +kernel)).1 heq.symm)

end Stub
end Bindery
