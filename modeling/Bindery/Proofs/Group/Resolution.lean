import Bindery.Group.Resolution
import Bindery.Proofs.Outcome
import Bindery.Proofs.Table
/-!
# What resolution depends on and what it keeps

Resolution asks a context for the public name of a library and for membership in the free
identifiers, nothing else. It changes the types of an item one by one and nothing besides them.
-/
namespace Bindery.Resolution

open Outcome

/-- Two contexts that give the same answers. -/
structure Context.Agrees (ctx ctx' : Context) : Prop where
  library : ctx.library = ctx'.library
  names : ∀ library, ctx.names.get? library = ctx'.names.get? library
  free : ∀ id, id ∈ ctx.free ↔ id ∈ ctx'.free

variable {ctx ctx' : Context}

theorem resolveTy_congr (h : ctx.Agrees ctx') : resolveTy ctx = resolveTy ctx' := by
  have hname : publicName ctx = publicName ctx' := by
    funext path name
    simp [publicName, h.library, h.names]
  funext t
  induction t with
  | primitive kind => rfl
  | object path name => simp [resolveTy, isForeign, refer, hname, h.library]
  | record path name => simp [resolveTy, isForeign, refer, hname, h.library, h.free]
  | enumeration path name => simp [resolveTy, isForeign, refer, hname, h.library, h.free]
  | callback path name => simp [resolveTy, isForeign, h.library]
  | custom path name builtin ih => simp [resolveTy, isForeign, refer, hname, h.library, ih]
  | optional inner ih => simp [resolveTy, ih]
  | sequence inner ih => simp [resolveTy, ih]
  | map key value ihkey ihvalue => simp [resolveTy, ihkey, ihvalue]
  | external target => simp [resolveTy, stamp, hname]

theorem resolveIn_congr (h : ctx.Agrees ctx') : resolveIn ctx = resolveIn ctx' := by
  have hty := resolveTy_congr h
  have hty? : resolveTy? ctx = resolveTy? ctx' := by
    funext ty
    cases ty <;> simp [resolveTy?, hty]
  have hparam : resolveParam ctx = resolveParam ctx' := by
    funext p
    simp [resolveParam, hty]
  have hfield : resolveField ctx = resolveField ctx' := by
    funext f
    simp [resolveField, hty]
  have hvariant : resolveVariant ctx = resolveVariant ctx' := by
    funext v
    simp [resolveVariant, hfield]
  funext item
  cases item <;> simp [resolveIn, hty, hty?, hparam, hfield, hvariant]

/-- Resolution asks only which names there are and which identifiers are free. -/
theorem resolve_congr {names names' : Table String String} {free free' : List Ident}
    (hnames : ∀ library, names.get? library = names'.get? library)
    (hfree : ∀ id, id ∈ free ↔ id ∈ free') : resolve names free = resolve names' free' := by
  funext item
  have hagrees : Context.Agrees ⟨item.library, names, free⟩ ⟨item.library, names', free'⟩ :=
    ⟨rfl, hnames, hfree⟩
  exact congrFun (resolveIn_congr hagrees) item

/-- One type is the resolved form of another. -/
abbrev Resolves (ctx : Context) (t t' : Ty) : Prop := resolveTy ctx t = .ok t'

/-- The types of an item are resolved where they stand, and it keeps its identifier. -/
structure Keeps (ctx : Context) (item resolved : Item) : Prop where
  ident? : resolved.ident? = item.ident?
  fieldTypes : List.Forall₂ (Resolves ctx) item.fieldTypes resolved.fieldTypes
  types : List.Forall₂ (Resolves ctx) item.types resolved.types

/-- The types of resolved fields are the resolved types of the fields. -/
theorem resolveFields_types {fields fields' : List Field}
    (h : fields.mapM (resolveField ctx) = .ok fields') :
    List.Forall₂ (Resolves ctx) (fields.map Field.ty) (fields'.map Field.ty) := by
  rw [List.forall₂_map_left_iff, List.forall₂_map_right_iff]
  refine (mapM_eq_ok.1 h).imp fun f f' hf => ?_
  obtain ⟨ty, hty, rfl⟩ := map_eq_ok.1 hf
  exact hty

theorem resolveVariants_types {variants variants' : List Variant}
    (h : variants.mapM (resolveVariant ctx) = .ok variants') :
    List.Forall₂ (Resolves ctx) (variants.flatMap fun v => v.fields.map Field.ty)
      (variants'.flatMap fun v => v.fields.map Field.ty) := by
  have hall := mapM_eq_ok.1 h
  clear h
  induction hall with
  | nil => exact .nil
  | cons hv _ ih =>
    obtain ⟨fields, hfields, rfl⟩ := map_eq_ok.1 hv
    simp only [List.flatMap_cons]
    exact List.rel_append (resolveFields_types hfields) ih

theorem resolveParams_types {inputs inputs' : List Param}
    (h : inputs.mapM (resolveParam ctx) = .ok inputs') :
    List.Forall₂ (Resolves ctx) (inputs.map Param.ty) (inputs'.map Param.ty) := by
  rw [List.forall₂_map_left_iff, List.forall₂_map_right_iff]
  refine (mapM_eq_ok.1 h).imp fun p p' hp => ?_
  obtain ⟨ty, hty, rfl⟩ := map_eq_ok.1 hp
  exact hty

theorem resolveTy?_types {ty ty' : Option Ty} (h : resolveTy? ctx ty = .ok ty') :
    List.Forall₂ (Resolves ctx) ty.toList ty'.toList := by
  cases ty with
  | none =>
    obtain rfl := Except.ok.inj h
    exact .nil
  | some ty =>
    obtain ⟨ty', hty, rfl⟩ := map_eq_ok.1 h
    exact .cons hty .nil

/-- The types of a resolved signature are its types resolved. -/
theorem resolveSignature_types {inputs inputs' : List Param}
    {returns returns' throws throws' : Option Ty}
    (hinputs : inputs.mapM (resolveParam ctx) = .ok inputs')
    (hreturns : resolveTy? ctx returns = .ok returns')
    (hthrows : resolveTy? ctx throws = .ok throws') :
    List.Forall₂ (Resolves ctx) (Item.signatureTypes inputs returns throws)
      (Item.signatureTypes inputs' returns' throws') :=
  List.rel_append (List.rel_append (resolveParams_types hinputs) (resolveTy?_types hreturns))
    (resolveTy?_types hthrows)

/-- Resolution keeps an item but for its types. -/
theorem keeps_of_resolveIn {item resolved : Item} (h : resolveIn ctx item = .ok resolved) :
    Keeps ctx item resolved := by
  cases item with
  | record r =>
    obtain ⟨fields, hfields, he⟩ := bind_eq_ok.1 h
    obtain rfl := Except.ok.inj he
    exact ⟨rfl, resolveFields_types hfields, resolveFields_types hfields⟩
  | enumeration e =>
    obtain ⟨variants, hvariants, he⟩ := bind_eq_ok.1 h
    obtain rfl := Except.ok.inj he
    exact ⟨rfl, resolveVariants_types hvariants, resolveVariants_types hvariants⟩
  | custom c =>
    obtain ⟨builtin, hbuiltin, he⟩ := bind_eq_ok.1 h
    obtain rfl := Except.ok.inj he
    exact ⟨rfl, .nil, .cons hbuiltin .nil⟩
  | function s | constructor s | method s | traitMethod s =>
    obtain ⟨inputs, hinputs, he⟩ := bind_eq_ok.1 h
    obtain ⟨returns, hreturns, he⟩ := bind_eq_ok.1 he
    obtain ⟨throws, hthrows, he⟩ := bind_eq_ok.1 he
    obtain rfl := Except.ok.inj he
    exact ⟨rfl, .nil, resolveSignature_types hinputs hreturns hthrows⟩
  | space s | legacy s | object s | callback s =>
    obtain rfl := Except.ok.inj h
    exact ⟨rfl, .nil, .nil⟩

end Bindery.Resolution
