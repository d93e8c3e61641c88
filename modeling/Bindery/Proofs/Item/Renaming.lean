import Bindery.Proofs.Item.Types
/-!
# Items by other names

Every name of a type is changed: of declarations, of owners, and wherever a type stands.
-/
namespace Bindery

variable (ρ : String → String)

def External.rename (e : External) : External := { e with name := ρ e.name }

def Ty.rename : Ty → Ty
  | primitive kind => primitive kind
  | object path name => object path (ρ name)
  | record path name => record path (ρ name)
  | enumeration path name => enumeration path (ρ name)
  | callback path name => callback path (ρ name)
  | custom path name builtin => custom path (ρ name) builtin.rename
  | optional inner => optional inner.rename
  | sequence inner => sequence inner.rename
  | map key value => map key.rename value.rename
  | external target => external (target.rename ρ)

def Ident.rename (id : Ident) : Ident := ⟨id.modulePath, ρ id.name⟩

def Ty.typeName? : Ty → Option String
  | object _ name | record _ name | enumeration _ name | callback _ name | custom _ name _ =>
    some name
  | external e => some e.name
  | primitive _ | optional _ | sequence _ | map _ _ => none

/-- What stands in a renamed type is what stands in the type, renamed. -/
theorem Ty.occurrences_rename {ρ : String → String} (ty : Ty) :
    (ty.rename ρ).occurrences = ty.occurrences.map (Ty.rename ρ) := by
  induction ty with
  | primitive | object | record | enumeration | callback | external => rfl
  | custom _ _ _ ih | optional _ ih | sequence _ ih => simp [rename, occurrences, ih]
  | map _ _ ihKey ihValue => simp [rename, occurrences, ihKey, ihValue]

def Function.rename (f : Function) : Function :=
  { f with
    inputs := f.inputs.map (Param.mapType (Ty.rename ρ)), returns := f.returns.map (Ty.rename ρ)
    throws := f.throws.map (Ty.rename ρ) }

def Constructor.rename (c : Constructor) : Constructor :=
  { c with
    owner := ρ c.owner
    inputs := c.inputs.map (Param.mapType (Ty.rename ρ)), returns := c.returns.map (Ty.rename ρ)
    throws := c.throws.map (Ty.rename ρ) }

def Method.rename (m : Method) : Method :=
  { m with
    owner := ρ m.owner
    inputs := m.inputs.map (Param.mapType (Ty.rename ρ)), returns := m.returns.map (Ty.rename ρ)
    throws := m.throws.map (Ty.rename ρ) }

def TraitMethod.rename (m : TraitMethod) : TraitMethod :=
  { m with
    owner := ρ m.owner
    inputs := m.inputs.map (Param.mapType (Ty.rename ρ)), returns := m.returns.map (Ty.rename ρ)
    throws := m.throws.map (Ty.rename ρ) }

def Record.rename (r : Record) : Record :=
  { r with name := ρ r.name, fields := r.fields.map (Field.mapType (Ty.rename ρ)) }

def Enumeration.rename (e : Enumeration) : Enumeration :=
  { e with name := ρ e.name, variants := e.variants.map (Variant.mapTypes (Ty.rename ρ)) }

def Object.rename (o : Object) : Object := { o with name := ρ o.name }

def CallbackInterface.rename (c : CallbackInterface) : CallbackInterface :=
  { c with name := ρ c.name }

def CustomType.rename (c : CustomType) : CustomType :=
  { c with name := ρ c.name, builtin := c.builtin.rename ρ }

def Item.rename : Item → Item
  | space n => space n
  | legacy m => legacy m
  | custom c => custom (c.rename ρ)
  | record r => record (r.rename ρ)
  | enumeration e => enumeration (e.rename ρ)
  | object o => object (o.rename ρ)
  | callback c => callback (c.rename ρ)
  | constructor c => constructor (c.rename ρ)
  | method m => method (m.rename ρ)
  | traitMethod m => traitMethod (m.rename ρ)
  | function f => function (f.rename ρ)

variable {ρ}

namespace Item

theorem signatureTypes_map (f : Ty → Ty) (inputs : List Param) (returns throws : Option Ty) :
    signatureTypes (inputs.map (Param.mapType f)) (returns.map f) (throws.map f) =
      (signatureTypes inputs returns throws).map f := by
  simp [signatureTypes, Param.mapType, Option.toList_map, Function.comp_def]

theorem fieldTypes_rename (item : Item) :
    (item.rename ρ).fieldTypes = item.fieldTypes.map (Ty.rename ρ) := by
  cases item <;>
    simp [rename, fieldTypes, Record.rename, Enumeration.rename, Variant.mapTypes, Field.mapType,
      List.flatMap_map, List.map_flatMap, Function.comp_def]

/-- The types of a renamed item are its types, renamed. -/
theorem types_rename (item : Item) : (item.rename ρ).types = item.types.map (Ty.rename ρ) := by
  cases item with
  | function f | constructor c | method m | traitMethod m => exact signatureTypes_map _ _ _ _
  | record r => exact fieldTypes_rename (.record r)
  | enumeration e => exact fieldTypes_rename (.enumeration e)
  | custom | space | legacy | object | callback => rfl

theorem occurrences_rename (item : Item) :
    (item.rename ρ).occurrences = item.occurrences.map (Ty.rename ρ) := by
  simp only [occurrences, types_rename, List.flatMap_map, List.map_flatMap, Ty.occurrences_rename]

theorem ident?_rename (item : Item) :
    (item.rename ρ).ident? = item.ident?.map (Ident.rename ρ) := by
  cases item <;> rfl

end Item
end Bindery
