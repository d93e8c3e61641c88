import Bindery.Proofs.Interface.Merge
import Bindery.Proofs.Stub.Layout
/-!
# The annotations of a stub

Every annotation is written for a type that stands in an item of the interface, or for the object to
which a constructor belongs, and every such type is written. The initialiser of a class alone leaves
its result out.
-/
namespace Bindery

/-- The types that are written for an item. The initialiser of a class has no result. -/
def Item.writtenTypes : Item → List Ty
  | constructor c =>
    signatureTypes c.inputs (if c.name = "new" then none else c.returns) c.throws
  | item => item.types

namespace Interface

variable {i : Interface}

/-- An item of an interface stands in one of its tables. -/
theorem exists_mem_items_iff {P : Item → Prop} :
    (∃ item ∈ i.items, P item) ↔
      (∃ f ∈ i.functions.values, P (.function f)) ∨ (∃ r ∈ i.records.values, P (.record r)) ∨
      (∃ e ∈ i.enumerations.values, P (.enumeration e)) ∨
      (∃ o ∈ i.objects.values, P (.object o)) ∨ (∃ c ∈ i.callbacks.values, P (.callback c)) ∨
      (∃ c ∈ i.customs.values, P (.custom c)) ∨
      (∃ c ∈ i.constructors.values, P (.constructor c)) ∨
      (∃ m ∈ i.methods.values, P (.method m)) ∨
      ∃ m ∈ i.traitMethods.values, P (.traitMethod m) := by
  simp only [items, List.mem_append, List.mem_map, or_and_right, exists_or,
    exists_exists_and_eq_and, or_assoc]

/-- Declarations stand under their names. -/
theorem WellFormed.keys_eq {α : Type} (h : i.WellFormed) (t : Table String α) (kind : DeclKind)
    (itemOf : α → Item) (nameOf : α → String)
    (hat : ∀ name, i.at? (.declaration kind name) = (t.get? name).map itemOf)
    (hslot : ∀ value, (itemOf value).slot? = some (.declaration kind (nameOf value))) :
    t.keys = t.values.map nameOf := by
  simp only [Table.keys, Table.values, List.map_map]
  refine List.map_congr_left fun entry hentry => ?_
  have hget := (t.get?_eq_some_iff entry.1 entry.2).2 hentry
  have hkeyed := h.keyed (.declaration kind entry.1) (itemOf entry.2) (by rw [hat, hget]; rfl)
  rw [hslot] at hkeyed
  exact (Slot.declaration.inj (Option.some.inj hkeyed)).2.symm

theorem WellFormed.keys_objects (h : i.WellFormed) :
    i.objects.keys = i.objects.values.map Object.name :=
  h.keys_eq i.objects .object .object Object.name (fun _ => rfl) fun _ => rfl

theorem WellFormed.keys_callbacks (h : i.WellFormed) :
    i.callbacks.keys = i.callbacks.values.map CallbackInterface.name :=
  h.keys_eq i.callbacks .callback .callback CallbackInterface.name (fun _ => rfl) fun _ => rfl

/-- To look at the members of one owner after the other is to look at all of them. -/
theorem Apportioned.exists_iff {α : Type} {members : Table (String × String) α}
    {owners : List String} {membersOf : String → List α} (h : Apportioned members owners membersOf)
    {P : α → Prop} :
    (∃ owner ∈ owners, ∃ m ∈ membersOf owner, P m) ↔ ∃ m ∈ members.values, P m := by
  simp only [← h.all.mem_iff, List.mem_flatMap]
  tauto

/-- A constructor belongs to an object. -/
theorem WellFormed.exists_owner (h : i.WellFormed) {c : Constructor}
    (hc : .constructor c ∈ i.items) : ∃ o, .object o ∈ i.items ∧ o.name = c.owner := by
  obtain ⟨b, hb, kind, hkind, hslot⟩ := h.coherent.owners _ hc _ rfl _ _ rfl
  obtain rfl := List.mem_singleton.1 hkind
  cases b with
  | object o => exact ⟨o, hb, (Slot.declaration.inj (Option.some.inj hslot)).2⟩
  | _ => cases hslot

end Interface

namespace Stub

def Callable.annotations (c : Callable) : List Annotation :=
  c.params.map Prod.snd ++ c.result.toList ++ c.raises.toList

/-- The annotations that are written in a statement. -/
def Statement.annotations : Statement → List Annotation
  | typeAlias _ value => [value]
  | dataClass _ _ _ _ attributes => attributes.map Attribute.annotation
  | memberClass _ _ _ members => members.flatMap Callable.annotations
  | function c => c.annotations
  | comment _ | moduleDocs _ | standardImports | packageImports _ | constants _ _
  | nameClass _ _ _ | baseClass _ _ _ | attach _ _ _ => []

variable {s : Section} {i : Interface} {a : Annotation} {space : String}

/-- A stub writes a type for each type of an item, and for a constructor without a result the object
that it belongs to. -/
inductive Writes (i : Interface) : Ty → Prop where
  | type {item : Item} {ty : Ty} : item ∈ i.items → ty ∈ item.writtenTypes → Writes i ty
  | object {c : Constructor} {o : Object} : .constructor c ∈ i.items → c.name ≠ "new" →
      c.returns = none → .object o ∈ i.items → o.name = c.owner →
      Writes i (.object o.modulePath c.owner)

/-- The annotations that are written for an item. -/
def itemAnnotations (s : Section) : Item → List Annotation
  | .constructor c => (constructorOf s c).annotations
  | item => item.writtenTypes.map (.ofTy s)

/-- The annotations of a signature are those of its types. -/
theorem annotations_signature (inputs : List Param) (returns throws : Option Ty) :
    (paramsOf s inputs).map Prod.snd ++ (returns.map <| Annotation.ofTy s).toList ++
        (throws.map <| Annotation.ofTy s).toList =
      (Item.signatureTypes inputs returns throws).map (.ofTy s) := by
  simp [Item.signatureTypes, paramsOf, Option.toList_map, Function.comp_def]

theorem mem_annotations_fields {fields : List Field} :
    a ∈ (attributesOf s fields).map Attribute.annotation ↔
      a ∈ ((fields.map Field.ty).map <| Annotation.ofTy s) := by
  simp [mem_attributesOf_iff, attributeOf]

theorem mem_annotations_trees {hashable : Enumeration → Bool} {ds : List Enumeration} :
    a ∈ (ds.flatMap fun d => treeStatements s (hashable d) d).flatMap Statement.annotations ↔
      ∃ d ∈ ds, a ∈ itemAnnotations s (.enumeration d) := by
  simp only [List.flatMap_assoc, List.mem_flatMap, treeStatements, variantStatements,
    List.flatMap_cons, List.mem_append, Statement.annotations, List.flatMap_nil, List.append_nil,
    List.not_mem_nil, false_or, mem_annotations_fields, itemAnnotations, Item.writtenTypes,
    Item.types, Item.fieldTypes, List.map_flatMap]

/-- An enumeration that is a plain list of names has no types. -/
theorem itemAnnotations_flat {d : Enumeration} (h : isFlat d = true) :
    itemAnnotations s (.enumeration d) = [] := by
  simp only [isFlat, Bool.and_eq_true, List.all_eq_true, List.isEmpty_iff] at h
  simp only [itemAnnotations, Item.writtenTypes, Item.types, Item.fieldTypes, List.map_eq_nil_iff,
    List.flatMap_eq_nil_iff]
  exact h.2

theorem mem_annotations_map {α : Type} {xs : List α} {f : α → Statement} :
    a ∈ (xs.map f).flatMap Statement.annotations ↔ ∃ x ∈ xs, a ∈ (f x).annotations := by
  rw [List.flatMap_map, List.mem_flatMap]

theorem exists_filter_or {α : Type} (xs : List α) (p : α → Bool) {P : α → Prop} :
    (∃ x ∈ xs.filter p, P x) ∨ (∃ x ∈ xs.filter (!p ·), P x) ↔ ∃ x ∈ xs, P x := by
  simp only [← exists_or, ← or_and_right, ← List.mem_append,
    (List.filter_append_perm p xs).mem_iff]

/-- Every enumeration is written once, as a list of names or as a tree of classes. -/
theorem mem_annotations_enumerations :
    a ∈ (flatClasses s i).flatMap Statement.annotations ∨
        a ∈ (treeClasses s i).flatMap Statement.annotations ↔
      ∃ d ∈ i.enumerations.values, a ∈ itemAnnotations s (.enumeration d) := by
  rw [treeClasses, mem_annotations_trees, flatClasses, mem_annotations_map,
    ← exists_filter_or i.enumerations.values isFlat]
  refine or_congr_left (exists_congr fun d => and_congr_right fun hd => ?_)
  rw [itemAnnotations_flat (List.mem_filter.1 hd).2]
  rfl

theorem mem_annotations_traitMethods {owner : String} :
    a ∈ ((i.traitMethodsOf owner).map (traitMethodOf s)).flatMap Callable.annotations ↔
      ∃ m ∈ i.traitMethodsOf owner, a ∈ itemAnnotations s (.traitMethod m) := by
  simp only [List.flatMap_map, List.mem_flatMap, itemAnnotations, Item.writtenTypes, Item.types,
    ← annotations_signature]
  rfl

/-- The members of objects and of callback interfaces. -/
theorem mem_annotations_members (hi : i.WellFormed) :
    a ∈ (objectClasses s i).flatMap Statement.annotations ∨
        a ∈ (callbackClasses s i).flatMap Statement.annotations ↔
      (∃ c ∈ i.constructors.values, a ∈ itemAnnotations s (.constructor c)) ∨
        (∃ m ∈ i.methods.values, a ∈ itemAnnotations s (.method m)) ∨
        ∃ m ∈ i.traitMethods.values, a ∈ itemAnnotations s (.traitMethod m) := by
  have hobject : ∀ o, a ∈ (objectStatement s i o).annotations ↔
      (∃ c ∈ i.constructorsOf o.name, a ∈ itemAnnotations s (.constructor c)) ∨
        (∃ m ∈ i.methodsOf o.name, a ∈ itemAnnotations s (.method m)) ∨
        ∃ m ∈ i.traitMethodsOf o.name, a ∈ itemAnnotations s (.traitMethod m) := by
    intro o
    simp only [objectStatement, Statement.annotations, List.flatMap_append, List.mem_append,
      mem_annotations_traitMethods, or_assoc]
    simp only [List.flatMap_map, List.mem_flatMap, itemAnnotations, Item.writtenTypes, Item.types,
      ← annotations_signature]
    rfl
  have hcallback : ∀ c, a ∈ (callbackStatement s i c).annotations ↔
      ∃ m ∈ i.traitMethodsOf c.name, a ∈ itemAnnotations s (.traitMethod m) := by
    intro c
    exact mem_annotations_traitMethods
  rw [← hi.orderly.constructors.exists_iff, ← hi.orderly.methods.exists_iff,
    ← hi.orderly.traitMethods.exists_iff, hi.keys_objects, hi.keys_callbacks]
  simp only [objectClasses, callbackClasses, mem_annotations_map, hobject, hcallback,
    List.mem_append, or_and_right, and_or_left, exists_or, List.mem_map, exists_exists_and_eq_and,
    or_assoc]

/-- The annotations of a stub are those of the items. -/
theorem mem_annotations_iff_items (hi : i.WellFormed) :
    a ∈ (statements s i space).flatMap Statement.annotations ↔
      ∃ item ∈ i.items, a ∈ itemAnnotations s item := by
  have haliases : a ∈ (aliases s i).flatMap Statement.annotations ↔
      ∃ c ∈ i.customs.values, a ∈ itemAnnotations s (.custom c) := mem_annotations_map
  have hrecords : a ∈ (recordClasses s i).flatMap Statement.annotations ↔
      ∃ r ∈ i.records.values, a ∈ itemAnnotations s (.record r) := by
    simp only [recordClasses, mem_annotations_map, recordStatement, Statement.annotations,
      mem_annotations_fields]
    rfl
  have hfunctions : a ∈ (functions s i).flatMap Statement.annotations ↔
      ∃ f ∈ i.functions.values, a ∈ itemAnnotations s (.function f) := by
    simp only [functions, mem_annotations_map, itemAnnotations, Item.writtenTypes, Item.types,
      ← annotations_signature]
    rfl
  have henumerations := mem_annotations_enumerations (s := s) (i := i) (a := a)
  have hmembers := mem_annotations_members (s := s) (a := a) hi
  have hheading : (heading i).flatMap Statement.annotations = [] := rfl
  have hobject : ∀ o, a ∉ itemAnnotations s (.object o) := fun _ => List.not_mem_nil
  have hcallback : ∀ c, a ∉ itemAnnotations s (.callback c) := fun _ => List.not_mem_nil
  rw [Interface.exists_mem_items_iff, statements_eq, declarations]
  simp only [List.flatMap_append, List.flatMap_cons, List.mem_append, hheading,
    Statement.annotations, List.not_mem_nil, false_or, hobject, hcallback, and_false,
    exists_false, ← haliases, ← hrecords, ← hfunctions, ← henumerations, ← hmembers]
  exact iff_of_eq (by ac_rfl)

theorem mem_annotations_constructor {c : Constructor} :
    a ∈ itemAnnotations s (.constructor c) ↔
      a ∈ ((Item.constructor c).writtenTypes.map <| Annotation.ofTy s) ∨
        c.name ≠ "new" ∧ c.returns = none ∧ a = .named (s.renamed c.owner) := by
  simp only [itemAnnotations, Callable.annotations, constructorOf, Item.writtenTypes,
    ← annotations_signature]
  by_cases hnew : c.name = "new"
  · simp [hnew]
  · cases c.returns with
    | none => simp [hnew, or_comm, or_left_comm]
    | some ty => simp [hnew]

/-- The annotations of a stub are those of the types that it writes. -/
theorem mem_annotations_iff (hi : i.WellFormed) :
    a ∈ (statements s i space).flatMap Statement.annotations ↔
      ∃ ty, Writes i ty ∧ .ofTy s ty = a := by
  rw [mem_annotations_iff_items hi]
  constructor
  · rintro ⟨item, hitem, ha⟩
    have hwritten (ha : a ∈ (item.writtenTypes.map <| Annotation.ofTy s)) :
        ∃ ty, Writes i ty ∧ .ofTy s ty = a := by
      obtain ⟨ty, hty, rfl⟩ := List.mem_map.1 ha
      exact ⟨ty, .type hitem hty, rfl⟩
    cases item with
    | constructor c =>
      obtain ha | ⟨hnew, hreturns, rfl⟩ := mem_annotations_constructor.1 ha
      · exact hwritten ha
      · obtain ⟨o, ho, hname⟩ := hi.exists_owner hitem
        exact ⟨_, .object hitem hnew hreturns ho hname, rfl⟩
    | _ => exact hwritten ha
  · rintro ⟨ty, hwrites, rfl⟩
    cases hwrites with
    | @type item _ hitem hty =>
      refine ⟨item, hitem, ?_⟩
      cases item with
      | constructor c => exact mem_annotations_constructor.2 (.inl (List.mem_map_of_mem hty))
      | _ => exact List.mem_map_of_mem hty
    | object hitem hnew hreturns _ _ =>
      exact ⟨_, hitem, mem_annotations_constructor.2 (.inr ⟨hnew, hreturns, rfl⟩)⟩

end Stub
end Bindery
