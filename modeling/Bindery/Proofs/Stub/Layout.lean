import Bindery.Proofs.Order
import Bindery.Stub.Module
/-!
# The layout of a stub

The parts of a stub in the order in which they stand, the tables that its items are taken from, and
the members of enumerations that are defaults of fields.
-/
namespace Bindery

namespace Interface

variable {i : Interface} {owner : String}

/-- An item stands in its table; facts about the library stand in none. -/
def Lists (i : Interface) : Item → Prop
  | .space _ | .legacy _ => False
  | .custom c => c ∈ i.customs.values
  | .record r => r ∈ i.records.values
  | .enumeration e => e ∈ i.enumerations.values
  | .object o => o ∈ i.objects.values
  | .callback c => c ∈ i.callbacks.values
  | .constructor c => c ∈ i.constructors.values
  | .method m => m ∈ i.methods.values
  | .traitMethod m => m ∈ i.traitMethods.values
  | .function f => f ∈ i.functions.values

/-- The items of an interface are those that stand in its tables. -/
theorem mem_items_iff_lists {item : Item} : item ∈ i.items ↔ i.Lists item := by
  cases item <;> simp [items, Lists]

/-- The fields of records and of variants. -/
def fields (i : Interface) : List Field :=
  i.records.values.flatMap Record.fields ++
    i.enumerations.values.flatMap fun d => d.variants.flatMap Variant.fields

end Interface

namespace Stub

variable (s : Section) (i : Interface)

def heading : List Statement :=
  [.comment ("Generated by ubind for library '" ++ i.library ++ "'. Do not edit."),
    .moduleDocs i.docstring, .standardImports]

def aliases : List Statement :=
  i.customs.values.map fun c => .typeAlias (s.renamed c.name) (.ofTy s c.builtin)

/-- The enumerations that are plain lists of names. -/
def flatClasses : List Statement := (i.enumerations.values.filter isFlat).map (flatStatement s)

def recordClasses : List Statement :=
  i.records.values.map fun r => recordStatement s (isHashable i (Interface.recordTy r)) r

/-- The other enumerations, each with its variants. -/
def treeClasses : List Statement :=
  (i.enumerations.values.filter (!isFlat ·)).flatMap fun e =>
    treeStatements s (isHashable i (Interface.enumerationTy e)) e

def objectClasses : List Statement := i.objects.values.map (objectStatement s i)

def callbackClasses : List Statement := i.callbacks.values.map (callbackStatement s i)

def functions : List Statement := i.functions.values.map fun f => .function (functionOf s f)

/-- The statements behind the constants. -/
def declarations : List Statement :=
  aliases s i ++ flatClasses s i ++ recordClasses s i ++ treeClasses s i ++ objectClasses s i ++
    callbackClasses s i ++ functions s i

/-- The statements of a stub in the order of its parts. -/
theorem statements_eq (name : String) :
    statements s i name = heading i ++ .packageImports (packages (imports s i)) ::
      .constants name s.cdylibName :: declarations s i := by
  simp [statements, heading, declarations, aliases, flatClasses, recordClasses, treeClasses,
    objectClasses, callbackClasses, functions]

/-- The text of a stub is the lines of its statements. -/
theorem render_eq {space : String} (hspace : i.space = some space) :
    render s i = .ok (fileText ((statements s i space).flatMap Statement.lines)) := by
  rw [render, Interface.namespaceName, hspace]
  rfl

variable {s} in
/-- Every field is an attribute of its class. -/
theorem mem_attributesOf_iff {fields : List Field} {a : Attribute} :
    a ∈ attributesOf s fields ↔ ∃ f ∈ fields, attributeOf s f = a := by
  have hmem : ∀ f, f ∈ fields.filter (·.default.isNone) ++ fields.filter (·.default.isSome) ↔
      f ∈ fields := by
    intro f
    cases hdefault : f.default <;> simp [hdefault]
  simp only [attributesOf, List.mem_map, hmem]

/-- The name of a variant behind that of its enumeration. -/
structure MemberName where
  enumeration : String
  variant : String

/-- The variant that the default of a field names, if the field is one of an enumeration. -/
def defaultMember? (f : Field) : Option MemberName :=
  match f.default, Value.requiredTy f.ty with
  | some value, .enumeration _ name => if value = "null" then none else some ⟨name, value⟩
  | _, _ => none

/-- A default names a member exactly if it is written as one. -/
theorem defaultMember?_eq_some_iff {f : Field} {e v : String} :
    defaultMember? f = some ⟨e, v⟩ ↔
      f.default.map (Value.ofDefault f.ty) = some (.variant e v) := by
  unfold defaultMember? Value.ofDefault
  cases f.default with
  | none => simp
  | some value =>
    generalize Value.requiredTy f.ty = required
    by_cases hnull : value = "null"
    · cases required <;> simp [hnull]
    · cases required with
      | primitive kind => cases kind <;> simp [hnull, apply_ite (· = Value.variant e v)]
      | _ => simp [hnull]

end Stub
end Bindery
