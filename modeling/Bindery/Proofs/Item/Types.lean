import Bindery.Item.Basic
/-!
# Items as carriers of types

An item carries types in its parameters, result and error, in its fields and those of its variants,
or as a builtin. A change of these types leaves everything else in the item as it is.
-/
namespace Bindery

def Param.mapType (f : Ty → Ty) (p : Param) : Param := { p with ty := f p.ty }

def Field.mapType (f : Ty → Ty) (d : Field) : Field := { d with ty := f d.ty }

def Variant.mapTypes (f : Ty → Ty) (v : Variant) : Variant :=
  { v with fields := v.fields.map (Field.mapType f) }

/-- A type stands in a signature: as that of a parameter, as the result or as the error. -/
inductive InSignature (inputs : List Param) (returns throws : Option Ty) : Ty → Prop where
  | input {p : Param} : p ∈ inputs → InSignature inputs returns throws p.ty
  | result {ty : Ty} : returns = some ty → InSignature inputs returns throws ty
  | error {ty : Ty} : throws = some ty → InSignature inputs returns throws ty

namespace Item

/-- A type stands in an item: in the signature of a callable, as that of a field, also of one of a
variant, or as what a custom type is made of. -/
inductive Carries : Item → Ty → Prop where
  | function {f : Function} {ty : Ty} :
      InSignature f.inputs f.returns f.throws ty → Carries (function f) ty
  | constructor {c : Constructor} {ty : Ty} :
      InSignature c.inputs c.returns c.throws ty → Carries (constructor c) ty
  | method {m : Method} {ty : Ty} :
      InSignature m.inputs m.returns m.throws ty → Carries (method m) ty
  | traitMethod {m : TraitMethod} {ty : Ty} :
      InSignature m.inputs m.returns m.throws ty → Carries (traitMethod m) ty
  | field {r : Record} {f : Field} : f ∈ r.fields → Carries (record r) f.ty
  | variantField {e : Enumeration} {v : Variant} {f : Field} :
      v ∈ e.variants → f ∈ v.fields → Carries (enumeration e) f.ty
  | builtin (c : CustomType) : Carries (custom c) c.builtin

/-- The types of a signature are those of its parameters, its result and its errors. -/
theorem mem_signatureTypes_iff {inputs : List Param} {returns throws : Option Ty} {ty : Ty} :
    ty ∈ signatureTypes inputs returns throws ↔ InSignature inputs returns throws ty := by
  simp only [signatureTypes, List.mem_append, List.mem_map, Option.mem_toList]
  constructor
  · rintro ((⟨p, hp, rfl⟩ | hresult) | herror)
    · exact .input hp
    · exact .result hresult
    · exact .error herror
  · rintro (hp | hresult | herror)
    · exact .inl (.inl ⟨_, hp, rfl⟩)
    · exact .inl (.inr hresult)
    · exact .inr herror

/-- The types that an item lists are the types it carries. -/
theorem mem_types_iff {item : Item} {ty : Ty} : ty ∈ item.types ↔ item.Carries ty := by
  constructor
  · intro h
    cases item with
    | function f => exact .function (mem_signatureTypes_iff.1 h)
    | constructor c => exact .constructor (mem_signatureTypes_iff.1 h)
    | method m => exact .method (mem_signatureTypes_iff.1 h)
    | traitMethod m => exact .traitMethod (mem_signatureTypes_iff.1 h)
    | record r =>
      obtain ⟨f, hf, rfl⟩ := List.mem_map.1 h
      exact .field hf
    | enumeration e =>
      obtain ⟨v, hv, h⟩ := List.mem_flatMap.1 h
      obtain ⟨f, hf, rfl⟩ := List.mem_map.1 h
      exact .variantField hv hf
    | custom c =>
      obtain rfl := List.mem_singleton.1 h
      exact .builtin c
    | space | legacy | object | callback => cases h
  · intro h
    cases h with
    | function h | constructor h | method h | traitMethod h => exact mem_signatureTypes_iff.2 h
    | field hf => exact List.mem_map_of_mem hf
    | variantField hv hf => exact List.mem_flatMap.2 ⟨_, hv, List.mem_map_of_mem hf⟩
    | builtin c => exact List.mem_singleton.2 rfl

/-- Change the types of an item where they stand. -/
def mapTypes (f : Ty → Ty) : Item → Item
  | function s => function { s with
      inputs := s.inputs.map (Param.mapType f), returns := s.returns.map f
      throws := s.throws.map f }
  | constructor s => constructor { s with
      inputs := s.inputs.map (Param.mapType f), returns := s.returns.map f
      throws := s.throws.map f }
  | method s => method { s with
      inputs := s.inputs.map (Param.mapType f), returns := s.returns.map f
      throws := s.throws.map f }
  | traitMethod s => traitMethod { s with
      inputs := s.inputs.map (Param.mapType f), returns := s.returns.map f
      throws := s.throws.map f }
  | record r => record { r with fields := r.fields.map (Field.mapType f) }
  | enumeration e => enumeration { e with variants := e.variants.map (Variant.mapTypes f) }
  | custom c => custom { c with builtin := f c.builtin }
  | item => item

/-- The types that an item mentions, each followed by those inside it. -/
def occurrences (item : Item) : List Ty := item.types.flatMap Ty.occurrences

@[simp] theorem mapTypes_id (item : Item) : item.mapTypes id = item := by
  have hparam : Param.mapType id = id := rfl
  have hfield : Field.mapType id = id := rfl
  have hvariant : Variant.mapTypes id = id := by
    funext v
    simp [Variant.mapTypes, hfield]
  cases item <;> simp [mapTypes, hparam, hfield, hvariant]

@[simp] theorem modulePath_mapTypes (f : Ty → Ty) (item : Item) :
    (item.mapTypes f).modulePath = item.modulePath := by
  cases item <;> rfl

@[simp] theorem library_mapTypes (f : Ty → Ty) (item : Item) :
    (item.mapTypes f).library = item.library := by
  simp [library]

end Item
end Bindery
