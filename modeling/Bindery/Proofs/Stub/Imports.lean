import Bindery.Proofs.Interface.Remembered
import Bindery.Proofs.Item.Types
import Bindery.Proofs.Reachability.Fields
import Bindery.Proofs.Stub.Annotations
/-!
# The imports of a stub

The import block has one line for each package, and on it the names of the types of other libraries
that stand anywhere in the items of the interface. The annotations are written for types that stand
there, so the names of the types of other libraries in them are imported.
-/
namespace Bindery

namespace Interface

variable {i : Interface}

theorem external?_eq_some {ty : Ty} {e : External} : external? ty = some e ↔ ty = .external e := by
  cases ty <;> simp [external?]

/-- The references of an interface stand somewhere in its items, and no others. -/
theorem mem_externals_iff {e : External} :
    e ∈ i.externals ↔ ∃ item ∈ i.items, .external e ∈ item.occurrences := by
  simp only [externals, Order.mem_sortBy, Order.mem_distinct, types, List.mem_filterMap,
    external?_eq_some, exists_eq_right, List.mem_flatMap, sortedItems, Item.occurrences]
  refine exists_congr fun item => and_congr_left fun _ => ?_
  exact (Order.perm_sortOn Item.sortKey Item.SortKey.compare i.items).mem_iff

end Interface

namespace Stub

/-- A name is imported from a package. -/
def Imports (block : List (String × List String)) (package name : String) : Prop :=
  ∃ names, (package, names) ∈ block ∧ name ∈ names

/-- A block imports the pairs of a set and no others, with one line for each package. Packages
increase from line to line and names along a line, so that none stands there twice. -/
structure ImportsExactly (block : List (String × List String))
    (wanted : String → String → Prop) : Prop where
  imports : ∀ package name, Imports block package name ↔ wanted package name
  packages : block.Pairwise fun line later => Order.compareText line.1 later.1 = .lt
  names : ∀ line ∈ block,
    line.2 ≠ [] ∧ line.2.Pairwise fun name later => Order.compareText name later = .lt

theorem imports_packages_iff {found : List (String × String)} {package name : String} :
    Imports (packages found) package name ↔ (package, name) ∈ found := by
  simp only [Imports, packages, List.mem_map, Order.mem_sortTexts_distinct, Prod.mk.injEq]
  constructor
  · rintro ⟨names, ⟨_, -, rfl, rfl⟩, hname⟩
    simpa [Order.mem_sortTexts_distinct] using hname
  · intro hfound
    refine ⟨_, ⟨package, ⟨_, hfound, rfl⟩, rfl, rfl⟩, ?_⟩
    simpa [Order.mem_sortTexts_distinct] using hfound

/-- Packages import the names that were found, each from its package. -/
theorem packages_importsExactly (found : List (String × String)) :
    ImportsExactly (packages found) fun package name => (package, name) ∈ found where
  imports _ _ := imports_packages_iff
  packages := List.pairwise_map.2 (Order.pairwise_lt_sortTexts_distinct _)
  names := by
    intro line hline
    obtain ⟨package, hpackage, rfl⟩ := List.mem_map.1 hline
    obtain ⟨⟨_, name⟩, hfound, rfl⟩ :=
      List.mem_map.1 (Order.mem_sortTexts_distinct.1 hpackage)
    refine ⟨List.ne_nil_of_mem (a := name) ?_, Order.pairwise_lt_sortTexts_distinct _⟩
    simpa [Order.mem_sortTexts_distinct] using hfound

/-- The block is told from the set of pairs alone. -/
theorem packages_congr {found found' : List (String × String)}
    (h : ∀ pair, pair ∈ found ↔ pair ∈ found') : packages found = packages found' := by
  have hpackages : ∀ package,
      package ∈ found.map Prod.fst ↔ package ∈ found'.map Prod.fst := by
    simp only [List.mem_map, h, implies_true]
  have hnames : ∀ package,
      Order.sortTexts (Order.distinct ((found.filter (·.1 = package)).map Prod.snd)) =
        Order.sortTexts (Order.distinct ((found'.filter (·.1 = package)).map Prod.snd)) := by
    intro package
    refine Order.sortTexts_distinct_congr fun name => ?_
    simp only [List.mem_map, List.mem_filter, h]
  simp only [packages, hnames, Order.sortTexts_distinct_congr hpackages]

variable {s : Section} {i : Interface}

/-- No import stands among the declarations. -/
theorem no_imports_in_declarations (block : List (String × List String)) :
    .packageImports block ∉ declarations s i := by
  simp [declarations, aliases, flatClasses, recordClasses, treeClasses, objectClasses,
    callbackClasses, functions, flatStatement, recordStatement, treeStatements,
    variantStatements, objectStatement, callbackStatement]

/-- A type of another library that stands at any depth in an item asks for its generated name from
the package of its namespace. -/
def Wanted (s : Section) (i : Interface) (package name : String) : Prop :=
  ∃ item ∈ i.items, ∃ ty, item.Carries ty ∧ ∃ e : External, Ty.Within (.external e) ty ∧
    s.packageOf e.namespaceName = package ∧ s.renamed e.name = name

/-- A name is wanted for a type of another library that occurs in an item. -/
theorem wanted_iff {package name : String} :
    Wanted s i package name ↔ ∃ item ∈ i.items, ∃ e : External, .external e ∈ item.occurrences ∧
      s.packageOf e.namespaceName = package ∧ s.renamed e.name = name := by
  simp only [Wanted, Item.occurrences, List.mem_flatMap, Item.mem_types_iff, Ty.mem_occurrences_iff]
  refine exists_congr fun item => and_congr_right fun _ => ?_
  constructor
  · rintro ⟨ty, hty, e, he, hpair⟩
    exact ⟨e, ⟨ty, hty, he⟩, hpair⟩
  · rintro ⟨e, ⟨ty, hty, he⟩, hpair⟩
    exact ⟨ty, hty, e, he, hpair⟩

/-- The names that are imported are those that are wanted. -/
theorem mem_imports_iff {package name : String} :
    (package, name) ∈ imports s i ↔ Wanted s i package name := by
  simp only [imports, List.mem_map, Interface.mem_externals_iff, wanted_iff, Prod.mk.injEq]
  constructor
  · rintro ⟨e, ⟨item, hitem, he⟩, hpair⟩
    exact ⟨item, hitem, e, he, hpair⟩
  · rintro ⟨item, hitem, e, he, hpair⟩
    exact ⟨e, ⟨item, hitem, he⟩, hpair⟩

theorem mem_types_of_mem_writtenTypes {item : Item} {ty : Ty} (h : ty ∈ item.writtenTypes) :
    ty ∈ item.types := by
  cases item with
  | constructor c =>
    have hsignature := Item.mem_signatureTypes_iff.1 h
    refine Item.mem_types_iff.2 (.constructor ?_)
    cases hsignature with
    | input hp => exact .input hp
    | result hresult =>
      split at hresult
      · cases hresult
      · exact .result hresult
    | error herror => exact .error herror
  | _ => exact h

/-- A type of another library in a type that is written is wanted. -/
theorem Writes.wanted {ty : Ty} (h : Writes i ty) {e : External} (he : Ty.Within (.external e) ty) :
    Wanted s i (s.packageOf e.namespaceName) (s.renamed e.name) := by
  cases h with
  | type hitem hty =>
    have hcarries := Item.mem_types_iff.1 (mem_types_of_mem_writtenTypes hty)
    exact ⟨_, hitem, _, hcarries, e, he, rfl, rfl⟩
  | object => cases he

/-- Statements with one import block among them. The block imports exactly the names that the items
ask for. The annotations in front of it and behind it are those of the types that the stub writes,
and whatever type of another library stands in one of these is imported. -/
structure ImportsComplete (s : Section) (i : Interface) (front : List Statement)
    (block : List (String × List String)) (back : List Statement) : Prop where
  only : ∀ other, .packageImports other ∉ front ++ back
  exactly : ImportsExactly block (Wanted s i)
  annotations : ∀ a, a ∈ (front ++ back).flatMap Statement.annotations ↔
    ∃ ty, Writes i ty ∧ .ofTy s ty = a
  imported : ∀ ty, Writes i ty → ∀ e, Ty.Within (.external e) ty →
    Imports block (s.packageOf e.namespaceName) (s.renamed e.name)

/-- The import block of a stub is complete. -/
theorem importsComplete_packages (hi : i.WellFormed) (name : String) :
    ImportsComplete s i (heading i) (packages (imports s i))
      (.constants name s.cdylibName :: declarations s i) where
  only other := by simp [heading, no_imports_in_declarations]
  exactly := by
    have hexactly := packages_importsExactly (imports s i)
    exact ⟨fun _ _ => (hexactly.imports _ _).trans mem_imports_iff, hexactly.packages,
      hexactly.names⟩
  annotations := by
    intro a
    rw [← mem_annotations_iff hi, statements_eq s i name]
    simp [Statement.annotations]
  imported _ hty _ he := imports_packages_iff.2 (mem_imports_iff.2 (hty.wanted he))

/-- Whatever an interface with a public name has been through, its stub has one import block, and
the block is complete. It imports the generated names of exactly the types of other libraries that
stand anywhere in the items, each from its package, on one line for each package, in order and
without repetition. The annotations, aliases and errors are those of the types that the stub writes,
and every type of another library in one of these is imported. -/
theorem imports_complete {library space : String} (steps : List Interface.Step)
    (hi : (Interface.empty library).run steps = i) (hspace : i.space = some space) (s : Section) :
    ∃ front block back,
      statements s i space = front ++ .packageImports block :: back ∧
      render s i = .ok (fileText (front.flatMap Statement.lines ++
        (if block = [] then [] else blank :: block.map importLine) ++
        back.flatMap Statement.lines)) ∧
      ImportsComplete s i front block back := by
  have hwell : i.WellFormed := hi ▸ Interface.wellFormed_run library steps
  refine ⟨_, _, _, statements_eq s i space, ?_, importsComplete_packages hwell space⟩
  rw [render_eq s i hspace, statements_eq, List.flatMap_append, List.flatMap_cons,
    List.append_assoc]
  rfl

/-- A custom type that is made of another one, in which a type of another library stands, and a
function that fails with a second type of that library and gives one of a third library. -/
def linkedItems : List Item := [
  .custom { modulePath := "a", name := "C"
            builtin := .sequence (.custom "a" "D" (.external
              { namespaceName := "two", modulePath := "b", name := "R", kind := .dataClass })) },
  .function { modulePath := "a", name := "f"
              returns := some (.external
                { namespaceName := "three", modulePath := "c", name := "S", kind := .interface })
              throws := some (.optional (.external
                { namespaceName := "two", modulePath := "b", name := "E", kind := .dataClass })) }]

def linkedGroup : Group where
  space := ⟨"a", "one"⟩
  items := linkedItems
  nodup := by decide

def linkedInterface : Interface := (Interface.empty "a").run [.add (.group linkedGroup)]

def linkedSettings : Section where
  language := "python"
  externalPackages := .ofList [("three", "pkg"), ("two", "pkg.two")]
  renames := .ofList [("S", "Session")]

theorem imports_complete_linked :
    linkedInterface.space = some "one" ∧
      ∃ front block back,
        statements linkedSettings linkedInterface "one" = front ++ .packageImports block :: back ∧
        render linkedSettings linkedInterface = .ok (fileText (front.flatMap Statement.lines ++
          (if block = [] then [] else blank :: block.map importLine) ++
          back.flatMap Statement.lines)) ∧
        ImportsComplete linkedSettings linkedInterface front block back :=
  have hspace : linkedInterface.space = some "one" := by decide +kernel
  ⟨hspace, imports_complete [.add (.group linkedGroup)] rfl hspace linkedSettings⟩

example : packages (imports linkedSettings linkedInterface) =
    [("pkg", ["Session"]), ("pkg.two", ["E", "R"])] := by decide +kernel

end Stub
end Bindery
