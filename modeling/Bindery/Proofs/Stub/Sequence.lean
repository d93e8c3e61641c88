import Bindery.Proofs.Interface.Remembered
import Bindery.Proofs.Stub.Bindings
import Bindery.Proofs.Stub.Imports
/-!
# The sequence of declarations in a stub

A stub has its declarations table after table, and not in the order of what depends on what. The
base classes and the variants are always bound before they are looked up. What can be missing is a
name that an alias is made of, and a member of an enumeration that is the default of a field.
-/
namespace Bindery

/-- The declarations that a type names where it stands. A custom type hides what it is made of. -/
def Ty.localNames : Ty → List String
  | object _ name | record _ name | enumeration _ name | callback _ name | custom _ name _ => [name]
  | optional inner | sequence inner => inner.localNames
  | map key value => key.localNames ++ value.localNames
  | primitive _ | external _ => []

/-- The declaration of this library that a type points at. -/
def Ty.declaration? : Ty → Option (DeclKind × String)
  | object _ name => some (.object, name)
  | record _ name => some (.record, name)
  | enumeration _ name => some (.enumeration, name)
  | callback _ name => some (.callback, name)
  | custom _ name _ => some (.custom, name)
  | primitive _ | optional _ | sequence _ | map _ _ | external _ => none

namespace Stub

variable {s : Section} {i : Interface} {builtins : List String} {bound : List Target}

/-- The builtin names that a stub may need. -/
def basicBuiltins : List String :=
  ["Exception", "bool", "bytes", "classmethod", "float", "int", "str"]

/-- An annotation has the names of the local declarations of its type, and besides them only names
of other libraries and names that any stub may have. -/
theorem forall_names_iff {P : String → Prop} (hbasic : ∀ n ∈ basicBuiltins, P n)
    (hstandard : ∀ n ∈ standardNames, P n) {ty : Ty}
    (hexternal : ∀ e, .external e ∈ ty.occurrences → P (s.renamed e.name)) :
    (∀ n ∈ Annotation.names (.ofTy s ty), P n) ↔ ∀ n ∈ ty.localNames, P (s.renamed n) := by
  have htyping : P "typing" := hstandard _ (by decide)
  induction ty with
  | primitive kind =>
    refine iff_of_true (fun n hn => ?_) fun n hn => absurd hn List.not_mem_nil
    have hany : n ∈ basicBuiltins ∨ n ∈ standardNames := by
      cases kind <;> (obtain rfl := List.mem_singleton.1 hn; decide)
    exact hany.elim (hbasic n) (hstandard n)
  | external e =>
    simp [Ty.localNames, Annotation.ofTy, Annotation.names, hexternal e (Ty.mem_occurrences_self _)]
  | object _ _ | record _ _ | enumeration _ _ | callback _ _ | custom _ _ _ =>
    simp [Ty.localNames, Annotation.ofTy, Annotation.names]
  | optional inner ih | sequence inner ih =>
    have hinner := ih fun e he => hexternal e (List.mem_cons_of_mem _ he)
    simp [Ty.localNames, Annotation.ofTy, Annotation.names, htyping, hinner]
  | map key value ihKey ihValue =>
    have hkey := ihKey fun e he => hexternal e (by simp [Ty.occurrences, he])
    have hvalue := ihValue fun e he => hexternal e (by simp [Ty.occurrences, he])
    simp only [Ty.localNames, Annotation.ofTy, Annotation.names, List.mem_cons, List.mem_append,
      or_imp, forall_and, forall_eq, htyping, true_and, hkey, hvalue]

/-- The members that are the defaults of some fields are bound. -/
def DefaultsBound (bound : List Target) (fields : List Field) : Prop :=
  ∀ f ∈ fields, ∀ m ∈ defaultMember? f,
    .name m.enumeration ∈ bound ∧ .member m.enumeration (ident m.variant) ∈ bound

theorem forall_value_reads_iff {value : Value} :
    (∀ t ∈ value.reads, t ∈ bound) ↔
      ∀ e v, value = .variant e v → .name e ∈ bound ∧ .member e (ident v) ∈ bound := by
  cases value <;> simp [Value.reads]

/-- The fields of a class find what they look up exactly if their defaults are bound. -/
theorem forall_attribute_reads_iff {fields : List Field} :
    (∀ t ∈ (attributesOf s fields).flatMap Attribute.reads, t ∈ bound) ↔
      DefaultsBound bound fields := by
  have hfield : ∀ f, (∀ t ∈ (attributeOf s f).reads, t ∈ bound) ↔
      ∀ m ∈ defaultMember? f,
        .name m.enumeration ∈ bound ∧ .member m.enumeration (ident m.variant) ∈ bound := by
    intro f
    have hvariant : (∀ m ∈ defaultMember? f,
        .name m.enumeration ∈ bound ∧ .member m.enumeration (ident m.variant) ∈ bound) ↔
        ∀ e v, f.default.map (Value.ofDefault f.ty) = some (.variant e v) →
          .name e ∈ bound ∧ .member e (ident v) ∈ bound := by
      simp only [← defaultMember?_eq_some_iff]
      exact ⟨fun h e v => h ⟨e, v⟩, fun h m => h m.enumeration m.variant⟩
    rw [hvariant]
    cases hdefault : f.default with
    | none => simp [attributeOf, Attribute.reads, hdefault]
    | some value => simpa [attributeOf, Attribute.reads, hdefault] using forall_value_reads_iff
  simp only [List.mem_flatMap, mem_attributesOf_iff, exists_exists_and_eq_and, DefaultsBound,
    ← hfield]
  constructor
  · exact fun h f hf t ht => h t ⟨f, hf, ht⟩
  · rintro h t ⟨f, hf, ht⟩
    exact h f hf t ht

/-- The names that are bound in front of the declarations. -/
def earlyNames (builtins : List String) (s : Section) (i : Interface) : List String :=
  builtins ++ standardNames ++ (packages (imports s i)).flatMap Prod.snd ++
    ["NAMESPACE", "CDYLIB_NAME"]

/-- The head of a stub is always ready, so the declarations decide. -/
theorem ready_behind_constants_iff {space : String} {cdylib : Option String}
    {back : List Statement} :
    Ready (builtins.map .name) (heading i ++ .packageImports (packages (imports s i)) ::
        .constants space cdylib :: back) ↔
      Ready ((earlyNames builtins s i).map .name) back := by
  rw [ready_append]
  simp [Ready, heading, Statement.reads, Statement.binds, earlyNames]

/-- The names that a stub may need, whatever it declares, are bound. -/
def HasBasics (bound : List Target) : Prop :=
  ∀ n ∈ standardNames ++ basicBuiltins, .name n ∈ bound

theorem HasBasics.append (h : HasBasics bound) (more : List Target) : HasBasics (bound ++ more) :=
  fun n hn => List.mem_append_left _ (h n hn)

theorem hasBasics_early (hbuiltins : basicBuiltins ⊆ builtins) :
    HasBasics ((earlyNames builtins s i).map .name) := by
  intro n hn
  refine List.mem_map_of_mem ?_
  obtain hn | hn := List.mem_append.1 hn
  · simp [earlyNames, hn]
  · simp [earlyNames, hbuiltins hn]

theorem mem_earlyNames_of_external {c : CustomType} (hc : c ∈ i.customs.values) {e : External}
    (he : .external e ∈ c.builtin.occurrences) :
    s.renamed e.name ∈ earlyNames builtins s i := by
  have hwanted : Wanted s i (s.packageOf e.namespaceName) (s.renamed e.name) :=
    ⟨.custom c, Interface.mem_items_iff_lists.2 hc, c.builtin, .builtin c, e,
      (Ty.mem_occurrences_iff _ _).1 he, rfl, rfl⟩
  obtain ⟨names, hline, hname⟩ := imports_packages_iff.2 (mem_imports_iff.2 hwanted)
  simp only [earlyNames, List.mem_append, List.mem_flatMap]
  exact .inl (.inr ⟨_, hline, hname⟩)

/-- Aliases are made of names that are bound early, or else of aliases in front of them. -/
theorem ready_aliases_iff (hbuiltins : basicBuiltins ⊆ builtins) :
    Ready ((earlyNames builtins s i).map .name) (aliases s i) ↔
      ∀ before c after, i.customs.values = before ++ c :: after → ∀ n ∈ c.builtin.localNames,
        s.renamed n ∈ earlyNames builtins s i ∨
          s.renamed n ∈ before.map fun c => s.renamed c.name := by
  rw [aliases, ready_map]
  refine forall₃_congr fun before c after => forall_congr' fun hsplit => ?_
  have hc : c ∈ i.customs.values := by simp [hsplit]
  rw [← forall_names_iff (P := fun n =>
    n ∈ earlyNames builtins s i ∨ n ∈ before.map fun c => s.renamed c.name)]
  · simp only [Statement.reads, List.forall_mem_map]
    simp [Statement.binds, eq_comm]
  · exact fun n hn => .inl (by simp [earlyNames, hbuiltins hn])
  · exact fun n hn => .inl (by simp [earlyNames, hn])
  · exact fun e he => .inl (mem_earlyNames_of_external hc he)

/-- Plain lists of names are always ready. -/
theorem ready_flatClasses (h : HasBasics bound) : Ready bound (flatClasses s i) := by
  refine ready_of_reads fun statement hstatement t ht => ?_
  obtain ⟨d, -, rfl⟩ := List.mem_map.1 hstatement
  exact List.mem_singleton.1 ht ▸ h "enum" (by decide)

theorem mem_binds_flat {ds : List Enumeration} {t : Target} :
    t ∈ (ds.map (flatStatement s)).flatMap Statement.binds ↔
      ∃ d ∈ ds, t = .name (s.renamed d.name) ∨
        ∃ v ∈ d.variants, t = .member (s.renamed d.name) (ident v.name) := by
  simp [flatStatement, Statement.binds, List.flatMap_map, eq_comm]

/-- Records are ready exactly if their defaults are bound by what stands before. -/
theorem ready_recordClasses_iff (h : HasBasics bound) :
    Ready bound (recordClasses s i) ↔
      ∀ before r after, i.records.values = before ++ r :: after →
        DefaultsBound (bound ++ before.map fun r => .name (s.renamed r.name)) r.fields := by
  rw [recordClasses, ready_map]
  refine forall₃_congr fun before r after => forall_congr' fun _ => ?_
  rw [← forall_attribute_reads_iff (s := s)]
  simp [recordStatement, Statement.reads, Statement.binds, h "dataclass" (by decide), eq_comm]

theorem mem_binds_variants {name : String} {hashable : Bool} {vs : List Variant} {t : Target} :
    t ∈ (vs.flatMap (variantStatements s name hashable)).flatMap Statement.binds ↔
      ∃ v ∈ vs, t = .name (name ++ v.name) ∨ t = .member name (ident v.name) := by
  simp [variantStatements, Statement.binds, List.flatMap_assoc]

theorem mem_binds_trees {hashable : Enumeration → Bool} {ds : List Enumeration} {t : Target} :
    t ∈ (ds.flatMap fun d => treeStatements s (hashable d) d).flatMap Statement.binds ↔
      ∃ d ∈ ds, t = .name (s.renamed d.name) ∨ ∃ v ∈ d.variants,
        t = .name (s.renamed d.name ++ v.name) ∨
          t = .member (s.renamed d.name) (ident v.name) := by
  rw [List.flatMap_assoc, List.mem_flatMap]
  simp only [treeStatements, List.flatMap_cons, List.mem_append, mem_binds_variants,
    Statement.binds, List.mem_singleton]

/-- The base class and what is assigned to it are bound; the defaults of a variant have to be. -/
theorem ready_treeStatements_iff {hashable : Bool} {d : Enumeration} (h : HasBasics bound) :
    Ready bound (treeStatements s hashable d) ↔
      ∀ earlier v later, d.variants = earlier ++ v :: later →
        DefaultsBound (bound ++ [.name (s.renamed d.name)] ++
          (earlier.flatMap (variantStatements s (s.renamed d.name)
            (hashable && !d.isError))).flatMap Statement.binds) v.fields := by
  have hbase : ∀ t ∈ (Statement.baseClass d.isError (s.renamed d.name) d.docstring).reads,
      t ∈ bound := by
    cases d.isError <;> simp [Statement.reads, h "Exception" (by decide)]
  rw [treeStatements, Ready, ready_flatMap, and_iff_right hbase]
  refine forall₃_congr fun earlier v later => forall_congr' fun _ => ?_
  rw [← forall_attribute_reads_iff (s := s)]
  simp [variantStatements, Ready, Statement.reads, Statement.binds, h "dataclass" (by decide)]

end Stub

namespace Interface

variable {i : Interface}

/-- The default of a field of an enumeration, unless it is null, is the name of a variant. -/
def DefaultsNamed (i : Interface) : Prop :=
  ∀ f ∈ i.fields, ∀ m ∈ Stub.defaultMember? f,
    ∃ d ∈ i.enumerations.get? m.enumeration, m.variant ∈ d.variants.map Variant.name

instance (i : Interface) : Decidable i.DefaultsNamed :=
  inferInstanceAs (Decidable (∀ f ∈ i.fields, ∀ m ∈ Stub.defaultMember? f,
    ∃ d ∈ i.enumerations.get? m.enumeration, m.variant ∈ d.variants.map Variant.name))

/-- Every type of this library that occurs anywhere is declared under its kind. -/
def Closed (i : Interface) : Prop :=
  ∀ item ∈ i.items, ∀ ty ∈ item.occurrences, ∀ d ∈ ty.declaration?, d.2 ∈ i.declared d.1

instance (i : Interface) : Decidable i.Closed :=
  inferInstanceAs (Decidable
    (∀ item ∈ i.items, ∀ ty ∈ item.occurrences, ∀ d ∈ ty.declaration?, d.2 ∈ i.declared d.1))

/-- The name of an enumeration that is a plain list of names. -/
def IsPlain (i : Interface) (name : String) : Prop :=
  ∃ d, i.enumerations.get? name = some d ∧ Stub.isFlat d = true

theorem WellFormed.get?_enumerations_iff (h : i.WellFormed) {d : Enumeration} {name : String} :
    i.enumerations.get? name = some d ↔ d ∈ i.enumerations.values ∧ d.name = name := by
  have hkey : ∀ key, i.enumerations.get? key = some d → d.name = key := by
    intro key hkey
    have hslot := h.keyed (.declaration .enumeration key) (.enumeration d) (by simp [at?, hkey])
    simpa [Item.slot?] using hslot
  constructor
  · intro hget
    exact ⟨List.mem_map_of_mem ((Table.get?_eq_some_iff _ _ _).1 hget), hkey name hget⟩
  · rintro ⟨hd, rfl⟩
    obtain ⟨⟨key, _⟩, hentry, rfl⟩ := List.mem_map.1 hd
    have hget := (Table.get?_eq_some_iff _ _ _).2 hentry
    rwa [hkey key hget]

end Interface

namespace Stub

variable {s : Section} {i : Interface} {builtins : List String} {bound : List Target}

/-- The members of plain enumerations are bound, and no others. -/
structure HoldsPlain (i : Interface) (bound : List Target) : Prop where
  name : ∀ e, i.IsPlain e → .name e ∈ bound
  member : ∀ e m, .member e m ∈ bound ↔ ∃ d, i.enumerations.get? e = some d ∧ isFlat d = true ∧
    m ∈ d.variants.map fun v => ident v.name

theorem member_notMem_of_names {targets : List Target} {e m : String}
    (hnames : ∀ t ∈ targets, ∃ n, t = .name n) : .member e m ∉ targets := by
  intro hm
  obtain ⟨n, hn⟩ := hnames _ hm
  cases hn

theorem HoldsPlain.append_names (h : HoldsPlain i bound) {names : List Target}
    (hnames : ∀ t ∈ names, ∃ n, t = .name n) : HoldsPlain i (bound ++ names) where
  name e he := List.mem_append_left _ (h.name e he)
  member e m := by
    rw [List.mem_append, or_iff_left (member_notMem_of_names hnames), h.member]

/-- A member that is bound belongs to a plain list of names. -/
theorem HoldsPlain.isPlain (h : HoldsPlain i bound) {e m : String} (hm : .member e m ∈ bound) :
    i.IsPlain e := by
  obtain ⟨d, hget, hflat, -⟩ := (h.member e m).1 hm
  exact ⟨d, hget, hflat⟩

theorem HoldsPlain.targets (h : HoldsPlain i bound) {e v : String} (he : i.IsPlain e)
    (hv : ∃ d ∈ i.enumerations.get? e, v ∈ d.variants.map Variant.name) :
    .name e ∈ bound ∧ .member e (ident v) ∈ bound := by
  obtain ⟨d, hget, hflat⟩ := he
  obtain ⟨d', hget', hv⟩ := hv
  obtain rfl := Option.some.inj (hget.symm.trans hget')
  refine ⟨h.name e ⟨d, hget, hflat⟩, (h.member e _).2 ⟨d, hget, hflat, ?_⟩⟩
  simpa using List.mem_map_of_mem (f := ident) hv

/-- The declarations of an interface do not look forward: an alias is made of names that are bound
early and of custom types in front of it, a field of a record has a member of a plain enumeration as
its default, and a field of a variant one of a plain enumeration, of an enumeration in front of its
own, or of its own one a variant in front of it. -/
structure Sequenced (builtins : List String) (s : Section) (i : Interface) : Prop where
  aliases : ∀ before c after, i.customs.values = before ++ c :: after →
    ∀ n ∈ c.builtin.localNames,
      n ∈ earlyNames builtins s i ∨ n ∈ before.map CustomType.name
  records : ∀ r ∈ i.records.values, ∀ f ∈ r.fields, ∀ m ∈ defaultMember? f, i.IsPlain m.enumeration
  variants : ∀ before d after,
    i.enumerations.values.filter (!isFlat ·) = before ++ d :: after →
    ∀ earlier v later, d.variants = earlier ++ v :: later →
      ∀ f ∈ v.fields, ∀ m ∈ defaultMember? f,
        i.IsPlain m.enumeration ∨ m.enumeration ∈ before.map Enumeration.name ∨
          m.enumeration = d.name ∧ ident m.variant ∈ earlier.map fun v => ident v.name

/-- Records are ready exactly if their defaults name members of plain lists of names. -/
theorem ready_recordClasses_iff_isPlain (hdefaults : i.DefaultsNamed) (hbasics : HasBasics bound)
    (h : HoldsPlain i bound) :
    Ready bound (recordClasses s i) ↔
      ∀ r ∈ i.records.values, ∀ f ∈ r.fields, ∀ m ∈ defaultMember? f, i.IsPlain m.enumeration := by
  have hplain (before : List Record) :
      HoldsPlain i (bound ++ before.map fun r => .name (s.renamed r.name)) :=
    h.append_names (by simp)
  have hfields : ∀ r ∈ i.records.values, ∀ f ∈ r.fields, f ∈ i.fields := fun r hr f hf =>
    List.mem_append_left _ (List.mem_flatMap.2 ⟨r, hr, hf⟩)
  rw [ready_recordClasses_iff hbasics]
  constructor
  · intro hready r hr f hf m hm
    obtain ⟨before, after, hsplit⟩ := List.append_of_mem hr
    exact (hplain before).isPlain (hready before r after hsplit f hf m hm).2
  · intro hall before r after hsplit f hf m hm
    have hr : r ∈ i.records.values := by simp [hsplit]
    exact (hplain before).targets (hall r hr f hf m hm) (hdefaults f (hfields r hr f hf) m hm)

/-- Enumerations with fields are ready exactly if their defaults name members that are bound before
them. -/
theorem ready_treeClasses_iff (hi : i.WellFormed) (hdefaults : i.DefaultsNamed)
    (hrenamed : ∀ n, s.renamed n = n) (hbasics : HasBasics bound) (h : HoldsPlain i bound) :
    Ready bound (treeClasses s i) ↔ ∀ before d after,
      i.enumerations.values.filter (!isFlat ·) = before ++ d :: after →
      ∀ earlier v later, d.variants = earlier ++ v :: later →
        ∀ f ∈ v.fields, ∀ m ∈ defaultMember? f,
          i.IsPlain m.enumeration ∨ m.enumeration ∈ before.map Enumeration.name ∨
            m.enumeration = d.name ∧ ident m.variant ∈ earlier.map fun v => ident v.name := by
  rw [treeClasses, ready_flatMap]
  refine forall₃_congr fun before d after => forall_congr' fun hsplit => ?_
  rw [ready_treeStatements_iff (hbasics.append _)]
  refine forall₃_congr fun earlier v later => forall_congr' fun hvariants => ?_
  refine forall₂_congr fun f hf => forall₂_congr fun default hdefault => ?_
  obtain ⟨e, m⟩ := default
  have hd : ∀ d' ∈ before ++ d :: after, d' ∈ i.enumerations.values := fun d' hd' =>
    (List.mem_filter.1 (hsplit ▸ hd')).1
  have hnamed := hdefaults f (List.mem_append_right _ (List.mem_flatMap.2
    ⟨d, hd d (by simp), List.mem_flatMap.2 ⟨v, by simp [hvariants], hf⟩⟩)) _ hdefault
  simp only [List.mem_append, mem_binds_trees, mem_binds_variants, List.mem_singleton, hrenamed,
    Target.name.injEq, Target.member.injEq, reduceCtorEq, or_false, false_or]
  constructor
  · rintro ⟨-, (hplain | ⟨d', hd', v', -, rfl, -⟩) | ⟨v', hv', rfl, hm⟩⟩
    · exact .inl (h.isPlain hplain)
    · exact .inr (.inl (List.mem_map_of_mem hd'))
    · exact .inr (.inr ⟨rfl, List.mem_map.2 ⟨v', hv', hm.symm⟩⟩)
  · rintro (hplain | he | ⟨rfl, hm⟩)
    · obtain ⟨hname, hmember⟩ := h.targets hplain hnamed
      exact ⟨.inl (.inl (.inl hname)), .inl (.inl hmember)⟩
    · obtain ⟨d', hd', rfl⟩ := List.mem_map.1 he
      obtain ⟨known, hget, hm⟩ := hnamed
      have hget' := hi.get?_enumerations_iff.2 ⟨hd d' (by simp [hd']), rfl⟩
      obtain rfl := Option.some.inj (hget.symm.trans hget')
      obtain ⟨v', hv', rfl⟩ := List.mem_map.1 hm
      exact ⟨.inl (.inl (.inr ⟨known, hd', .inl rfl⟩)),
        .inl (.inr ⟨known, hd', v', hv', rfl, rfl⟩)⟩
    · obtain ⟨v', hv', hm⟩ := List.mem_map.1 hm
      exact ⟨.inl (.inr rfl), .inr ⟨v', hv', rfl, hm.symm⟩⟩

theorem eq_classmethod_of_mem_reads {c : Callable} {t : Target} (h : t ∈ c.reads) :
    t = .name "classmethod" := by
  unfold Callable.reads at h
  split at h
  · exact List.mem_singleton.1 h
  · cases h

/-- Objects are always ready. -/
theorem ready_objectClasses (h : HasBasics bound) : Ready bound (objectClasses s i) := by
  refine ready_of_reads fun statement hstatement t ht => ?_
  obtain ⟨o, -, rfl⟩ := List.mem_map.1 hstatement
  obtain ⟨c, -, hc⟩ := List.mem_flatMap.1 ht
  exact eq_classmethod_of_mem_reads hc ▸ h _ (by decide)

theorem ready_callbackClasses (h : HasBasics bound) : Ready bound (callbackClasses s i) := by
  refine ready_of_reads fun statement hstatement t ht => ?_
  obtain ⟨c, -, rfl⟩ := List.mem_map.1 hstatement
  obtain ht | ht := List.mem_append.1 ht
  · exact List.mem_singleton.1 ht ▸ h "typing" (by decide)
  · obtain ⟨c, -, hc⟩ := List.mem_flatMap.1 ht
    exact eq_classmethod_of_mem_reads hc ▸ h _ (by decide)

theorem ready_functions (h : HasBasics bound) : Ready bound (functions s i) := by
  refine ready_of_reads fun statement hstatement t ht => ?_
  obtain ⟨f, -, rfl⟩ := List.mem_map.1 hstatement
  exact eq_classmethod_of_mem_reads ht ▸ h _ (by decide)

/-- The plain lists of names bind their members, and nothing else binds members. -/
theorem holdsPlain_flatClasses (hi : i.WellFormed) (hrenamed : ∀ n, s.renamed n = n)
    (hnames : ∀ t ∈ bound, ∃ n, t = .name n) :
    HoldsPlain i (bound ++ (flatClasses s i).flatMap Statement.binds) where
  name := by
    rintro e ⟨d, hget, hflat⟩
    obtain ⟨hd, rfl⟩ := hi.get?_enumerations_iff.1 hget
    rw [flatClasses, List.mem_append, mem_binds_flat]
    exact .inr ⟨d, List.mem_filter.2 ⟨hd, hflat⟩, .inl (by rw [hrenamed])⟩
  member e m := by
    rw [List.mem_append, or_iff_right (member_notMem_of_names hnames), flatClasses, mem_binds_flat]
    simp only [hrenamed, reduceCtorEq, false_or, List.mem_filter, Target.member.injEq,
      hi.get?_enumerations_iff, List.mem_map]
    constructor
    · rintro ⟨d, ⟨hd, hflat⟩, v, hv, rfl, rfl⟩
      exact ⟨d, ⟨hd, rfl⟩, hflat, v, hv, rfl⟩
    · rintro ⟨d, ⟨hd, rfl⟩, hflat, v, hv, rfl⟩
      exact ⟨d, ⟨hd, hflat⟩, v, hv, rfl, rfl⟩

theorem names_binds_map {α : Type} {xs : List α} {f : α → Statement} (name : α → String)
    (hf : ∀ x, (f x).binds = [.name (name x)]) :
    ∀ t ∈ (xs.map f).flatMap Statement.binds, ∃ n, t = .name n := by
  intro t ht
  simp only [List.flatMap_map, List.mem_flatMap, hf, List.mem_singleton] at ht
  obtain ⟨x, -, rfl⟩ := ht
  exact ⟨name x, rfl⟩

/-- The declarations of a stub are ready exactly if they are sequenced. -/
theorem ready_declarations_iff (hi : i.WellFormed) (hdefaults : i.DefaultsNamed)
    (hbuiltins : basicBuiltins ⊆ builtins) (hrenamed : ∀ n, s.renamed n = n) :
    Ready ((earlyNames builtins s i).map .name) (declarations s i) ↔ Sequenced builtins s i := by
  have hearly : HasBasics ((earlyNames builtins s i).map .name) := hasBasics_early hbuiltins
  have hnames : ∀ t ∈ (earlyNames builtins s i).map Target.name ++
      (aliases s i).flatMap Statement.binds, ∃ n, t = .name n := by
    intro t ht
    obtain ht | ht := List.mem_append.1 ht
    · obtain ⟨n, -, rfl⟩ := List.mem_map.1 ht
      exact ⟨n, rfl⟩
    · exact names_binds_map (fun c => s.renamed c.name) (fun _ => rfl) t ht
  have hflat : HoldsPlain i ((earlyNames builtins s i).map .name ++
      (aliases s i ++ flatClasses s i).flatMap Statement.binds) := by
    simpa only [List.flatMap_append, List.append_assoc] using
      holdsPlain_flatClasses hi hrenamed hnames
  have hrecords : HoldsPlain i ((earlyNames builtins s i).map .name ++
      (aliases s i ++ flatClasses s i ++ recordClasses s i).flatMap Statement.binds) := by
    rw [List.flatMap_append, ← List.append_assoc]
    exact hflat.append_names (names_binds_map (fun r => s.renamed r.name) fun _ => rfl)
  simp only [declarations, ready_append]
  rw [ready_aliases_iff hbuiltins, and_iff_left (ready_flatClasses (hearly.append _)),
    ready_recordClasses_iff_isPlain hdefaults (hearly.append _) hflat,
    ready_treeClasses_iff hi hdefaults hrenamed (hearly.append _) hrecords,
    and_iff_left (ready_objectClasses (hearly.append _)),
    and_iff_left (ready_callbackClasses (hearly.append _)),
    and_iff_left (ready_functions (hearly.append _))]
  simp only [hrenamed]
  constructor
  · rintro ⟨⟨haliases, hrecords⟩, hvariants⟩
    exact ⟨haliases, hrecords, hvariants⟩
  · intro h
    exact ⟨⟨h.aliases, h.records⟩, h.variants⟩

/-- The statement without what an alias is made of and without the fields of a class. -/
def Statement.bare : Statement → Statement
  | typeAlias name _ => typeAlias name (.primitive .string)
  | dataClass hashable name base docs _ => dataClass hashable name base docs []
  | other => other

theorem ready_bare_treeStatements {hashable : Bool} {d : Enumeration} (h : HasBasics bound) :
    Ready bound ((treeStatements s hashable d).map Statement.bare) := by
  let bareVariants := d.variants.map fun v => { v with fields := [] }
  have hbare : (treeStatements s hashable d).map Statement.bare =
      treeStatements s hashable { d with variants := bareVariants } := by
    simp [bareVariants, treeStatements, variantStatements, Statement.bare, List.map_flatMap,
      List.flatMap_map, attributesOf]
  rw [hbare, ready_treeStatements_iff h]
  intro earlier v later hsplit f hf
  have hv : v ∈ bareVariants := by
    change bareVariants = _ at hsplit
    simp [hsplit]
  obtain ⟨v', -, rfl⟩ := List.mem_map.1 hv
  cases hf

/-- Apart from the values of aliases and the defaults of fields, every stub is ready. -/
theorem ready_bare_statements (hbuiltins : basicBuiltins ⊆ builtins) {name : String} :
    Ready (builtins.map .name) ((statements s i name).map Statement.bare) := by
  have hearly : HasBasics ((earlyNames builtins s i).map .name) := hasBasics_early hbuiltins
  have hheading : (heading i).map Statement.bare = heading i := rfl
  rw [statements_eq, List.map_append, hheading]
  refine ready_behind_constants_iff.2 ?_
  simp only [declarations, List.map_append, ready_append]
  refine ⟨⟨⟨⟨⟨⟨?_, ?_⟩, ?_⟩, ?_⟩, ?_⟩, ?_⟩, ?_⟩
  · refine ready_of_reads fun statement hstatement t ht => ?_
    simp only [aliases, List.map_map, List.mem_map] at hstatement
    obtain ⟨c, -, rfl⟩ := hstatement
    exact List.mem_singleton.1 ht ▸ hearly "str" (by decide)
  · have hbare : (flatClasses s i).map Statement.bare = flatClasses s i := by
      simp [flatClasses, flatStatement, Statement.bare]
    rw [hbare]
    exact ready_flatClasses (hearly.append _)
  · refine ready_of_reads fun statement hstatement t ht => ?_
    simp only [recordClasses, List.map_map, List.mem_map] at hstatement
    obtain ⟨r, -, rfl⟩ := hstatement
    exact List.mem_singleton.1 ht ▸ hearly.append _ "dataclass" (by decide)
  · rw [treeClasses, List.map_flatMap, ready_flatMap]
    intro before d after _
    exact ready_bare_treeStatements ((hearly.append _).append _)
  · have hbare : (objectClasses s i).map Statement.bare = objectClasses s i := by
      simp [objectClasses, objectStatement, Statement.bare]
    rw [hbare]
    exact ready_objectClasses (hearly.append _)
  · have hbare : (callbackClasses s i).map Statement.bare = callbackClasses s i := by
      simp [callbackClasses, callbackStatement, Statement.bare]
    rw [hbare]
    exact ready_callbackClasses (hearly.append _)
  · have hbare : (functions s i).map Statement.bare = functions s i := by
      simp [functions, Statement.bare]
    rw [hbare]
    exact ready_functions (hearly.append _)

/-- For a stub without renaming: apart from the values of aliases and the defaults of fields,
everything that is looked up is bound before. These are bound before too exactly when the
declarations do not look forward. -/
theorem ready_iff_sequenced (hbuiltins : basicBuiltins ⊆ builtins) (hrenames : s.renames = .empty)
    (library : String) (steps : List Interface.Step) {space : String}
    (hspace : ((Interface.empty library).run steps).space = some space)
    (hdefaults : ((Interface.empty library).run steps).DefaultsNamed) :
    let i := (Interface.empty library).run steps
    render s i = .ok (fileText ((statements s i space).flatMap Statement.lines)) ∧
      Ready (builtins.map .name) ((statements s i space).map Statement.bare) ∧
      (Ready (builtins.map .name) (statements s i space) ↔ Sequenced builtins s i) := by
  intro i
  have hrenamed : ∀ n, s.renamed n = n := by simp [Section.renamed, hrenames]
  have hi : i.WellFormed := Interface.wellFormed_run library steps
  refine ⟨render_eq s i hspace, ready_bare_statements hbuiltins, ?_⟩
  rw [statements_eq, ready_behind_constants_iff]
  exact ready_declarations_iff hi hdefaults hbuiltins hrenamed

/-- An alias of an alias, a record with a member of a plain enumeration as a default, and an
enumeration of which the second variant has the first one as a default. -/
def layeredItems : List Item := [
  .custom { modulePath := "a", name := "A", builtin := .primitive .string },
  .custom { modulePath := "a", name := "B"
            builtin := .optional (.custom "a" "A" (.primitive .string)) },
  .enumeration { modulePath := "a", name := "Color", variants := [{ name := "Red" }] },
  .record { modulePath := "a", name := "Pixel"
            fields := [{ name := "color", ty := .enumeration "a" "Color"
                         default := some "Red" }] },
  .enumeration { modulePath := "a", name := "Shape"
                 variants := [
                  { name := "Dot", fields := [{ name := "size", ty := .primitive .u8 }] },
                  { name := "Box"
                    fields := [{ name := "inner", ty := .optional (.enumeration "a" "Shape")
                                 default := some "Dot" }] }] }]

def layeredGroup : Group where
  space := ⟨"a", "one"⟩
  items := layeredItems
  nodup := by decide

def plainSettings : Section := .empty "python"

theorem ready_iff_sequenced_layered :
    let i := (Interface.empty "a").run [.add (.group layeredGroup)]
    i.space = some "one" ∧ i.DefaultsNamed ∧
      (render plainSettings i = .ok
          (fileText ((statements plainSettings i "one").flatMap Statement.lines)) ∧
        Ready (basicBuiltins.map .name) ((statements plainSettings i "one").map Statement.bare) ∧
        (Ready (basicBuiltins.map .name) (statements plainSettings i "one") ↔
          Sequenced basicBuiltins plainSettings i)) ∧
      Ready (basicBuiltins.map .name) (statements plainSettings i "one") := by
  intro i
  have hspace : i.space = some "one" := by decide +kernel
  have hdefaults : i.DefaultsNamed := by decide +kernel
  exact ⟨hspace, hdefaults, ready_iff_sequenced (by simp) rfl "a" [.add (.group layeredGroup)]
    hspace hdefaults, by decide +kernel⟩

/-- An alias of a record. -/
def aliasedGroup : Group where
  space := ⟨"a", "one"⟩
  items := [
    .custom { modulePath := "a", name := "Alias", builtin := .record "a" "R" },
    .record { modulePath := "a", name := "R"
              fields := [{ name := "x", ty := .primitive .string }] }]
  nodup := by decide

/-- The alias of a record stands in front of the class that it looks up. -/
theorem alias_before_class :
    let i := (Interface.empty "a").run [.add (.group aliasedGroup)]
    i.space = some "one" ∧ i.Closed ∧ i.DefaultsNamed ∧ plainSettings.renames = .empty ∧
      declarations plainSettings i = [.typeAlias "Alias" (.named "R"),
        .dataClass true "R" none none [{ name := "x", annotation := .primitive .string }]] ∧
      ¬ Ready (basicBuiltins.map .name) (statements plainSettings i "one") := by
  decide +kernel

end Stub
end Bindery
