import Bindery.Group.Basic
import Bindery.Proofs.Group.Stamps
import Bindery.Proofs.Item.Types
/-!
# What resolution visits

Resolution visits the types of an item and everything inside them, but nothing inside a custom type
of another library. It ends well exactly when nothing that it visits is in the way. Then every
occurrence that it visits has become one occurrence of the result, and the rest of the item is as
it was.
-/
namespace Bindery

/-- What an item of a library shows of a type: the type and everything inside it, except what stands
inside a custom type of another library. -/
def Ty.visited (library : String) : Ty → List Ty
  | t@(optional inner) => t :: inner.visited library
  | t@(sequence inner) => t :: inner.visited library
  | t@(map key value) => t :: (key.visited library ++ value.visited library)
  | t@(custom path _ builtin) =>
    t :: if libraryOf path = library then builtin.visited library else []
  | t => [t]

/-- All types that stand in an item, except those inside a custom type of another library. -/
def Item.visited (item : Item) : List Ty := item.types.flatMap (Ty.visited item.library)

/-- The module path of a declaration that is named as such and not by a reference. -/
def Ty.declaredAt? : Ty → Option String
  | object path _ | record path _ | enumeration path _ | callback path _ | custom path _ _ =>
    some path
  | _ => none

/-- The module path whose library has to be named: that of a foreign record, enumeration, object or
custom type, and that of any reference. -/
def Ty.outward? (library : String) : Ty → Option String
  | object path _ | record path _ | enumeration path _ | custom path _ _ =>
    if libraryOf path = library then none else some path
  | external e => some e.modulePath
  | _ => none

namespace Resolution

open Outcome

variable {ctx : Context}

/-- Nothing about a type itself is in the way: it is no callback interface of another library, the
library that it points at is known, and a name that a reference has already is that of its
library. -/
@[mk_iff] structure Resolvable (ctx : Context) (t : Ty) : Prop where
  callback : ∀ path name, t = .callback path name → libraryOf path = ctx.library
  known : ∀ path, t.outward? ctx.library = some path → libraryOf path ∈ ctx.names.keys
  agrees : ∀ e, t = .external e → e.namespaceName ≠ "" →
    ctx.names.get? (libraryOf e.modulePath) = some e.namespaceName

theorem publicName_eq_ok {path name owner : String} :
    publicName ctx path name = .ok owner ↔ ctx.names.get? (libraryOf path) = some owner := by
  unfold publicName
  cases ctx.names.get? (libraryOf path) <;> simp

theorem exists_refer_iff {path name : String} {kind : ExternalKind} {flag : Bool} :
    (∃ t, refer ctx path name kind flag = .ok t) ↔ libraryOf path ∈ ctx.names.keys := by
  simp only [refer, map_eq_ok, publicName_eq_ok, Table.mem_keys_iff]
  constructor
  · rintro ⟨_, owner, howner, -⟩
    exact ⟨owner, howner⟩
  · rintro ⟨owner, howner⟩
    exact ⟨_, owner, howner, rfl⟩

/-- A reference is stamped with the public name of its library, unless it has another one. -/
theorem stamp_eq_ok {e : External} {t : Ty} :
    stamp ctx e = .ok t ↔ ∃ owner, ctx.names.get? (libraryOf e.modulePath) = some owner ∧
      (e.namespaceName ≠ "" → e.namespaceName = owner) ∧
      t = .external { e with namespaceName := owner } := by
  unfold stamp
  rw [bind_eq_ok]
  refine exists_congr fun owner => ?_
  rw [publicName_eq_ok]
  refine and_congr_right fun _ => ?_
  split
  · rename_i h
    constructor
    · intro hthrow
      cases hthrow
    · rintro ⟨hagrees, -⟩
      exact absurd (hagrees h.1) h.2
  · rename_i h
    have hagrees : e.namespaceName ≠ "" → e.namespaceName = owner :=
      fun hne => Decidable.not_not.1 fun hdiffers => h ⟨hne, hdiffers⟩
    constructor
    · intro hpure
      exact ⟨hagrees, (Except.ok.inj hpure).symm⟩
    · rintro ⟨-, rfl⟩
      rfl

/-- A reference can be stamped exactly if it is resolvable. -/
theorem exists_stamp_iff {e : External} :
    (∃ t, stamp ctx e = .ok t) ↔ Resolvable ctx (.external e) := by
  simp only [stamp_eq_ok, resolvable_iff, Ty.outward?, Table.mem_keys_iff, Option.some.injEq,
    forall_eq', reduceCtorEq, false_imp_iff, implies_true, true_and, Ty.external.injEq]
  constructor
  · rintro ⟨_, owner, howner, hagrees, -⟩
    exact ⟨⟨owner, howner⟩, fun hne => by rw [howner, hagrees hne]⟩
  · rintro ⟨⟨owner, howner⟩, hagrees⟩
    exact ⟨_, owner, howner, fun hne => Option.some.inj ((hagrees hne).symm.trans howner), rfl⟩

/-- A type can be resolved exactly when nothing that is visited of it is in the way. -/
theorem exists_resolveTy_iff (ctx : Context) (t : Ty) :
    (∃ t', resolveTy ctx t = .ok t') ↔ ∀ u ∈ t.visited ctx.library, Resolvable ctx u := by
  induction t with
  | primitive kind => simp [resolveTy, Ty.visited, resolvable_iff, Ty.outward?]
  | record path name | enumeration path name | object path name =>
    by_cases hown : libraryOf path = ctx.library
    · simp [resolveTy, Ty.visited, resolvable_iff, Ty.outward?, isForeign, hown]
    · simp [resolveTy, Ty.visited, resolvable_iff, Ty.outward?, isForeign, hown, exists_refer_iff]
  | callback path name =>
    by_cases hown : libraryOf path = ctx.library <;>
      simp [resolveTy, Ty.visited, resolvable_iff, Ty.outward?, isForeign, hown]
  | custom path name builtin ih =>
    by_cases hown : libraryOf path = ctx.library
    · have hhead : Resolvable ctx (.custom path name builtin) := by
        simp [resolvable_iff, Ty.outward?, hown]
      simp [resolveTy, Ty.visited, isForeign, hown, hhead, exists_map_eq_ok, ih]
    · simp [resolveTy, Ty.visited, resolvable_iff, Ty.outward?, isForeign, hown, exists_refer_iff]
  | optional inner ih =>
    have hhead : Resolvable ctx (.optional inner) := by simp [resolvable_iff, Ty.outward?]
    simp [resolveTy, Ty.visited, hhead, exists_map_eq_ok, ih]
  | sequence inner ih =>
    have hhead : Resolvable ctx (.sequence inner) := by simp [resolvable_iff, Ty.outward?]
    simp [resolveTy, Ty.visited, hhead, exists_map_eq_ok, ih]
  | map key value ihkey ihvalue =>
    have hhead : Resolvable ctx (.map key value) := by simp [resolvable_iff, Ty.outward?]
    have hboth : (∃ t', resolveTy ctx (.map key value) = .ok t') ↔
        (∃ k, resolveTy ctx key = .ok k) ∧ ∃ v, resolveTy ctx value = .ok v := by
      simp [resolveTy, bind_eq_ok]
    simp only [hboth, ihkey, ihvalue, Ty.visited, List.forall_mem_cons, hhead, true_and,
      List.forall_mem_append]
  | external e => simpa [resolveTy, Ty.visited] using exists_stamp_iff

/-- What resolution visits of a type becomes, one by one, what stands in the resolved type. -/
theorem Becomes.visited {t t' : Ty} (h : Becomes ctx t t') :
    List.Forall₂ (Becomes ctx) (t.visited ctx.library) t'.occurrences := by
  induction h with
  | primitive kind => exact .cons (.primitive kind) .nil
  | record hown => exact .cons (.record hown) .nil
  | enumeration hown => exact .cons (.enumeration hown) .nil
  | object hown => exact .cons (.object hown) .nil
  | callback hown => exact .cons (.callback hown) .nil
  | foreignRecord hforeign => exact .cons (.foreignRecord hforeign) .nil
  | foreignEnumeration hforeign => exact .cons (.foreignEnumeration hforeign) .nil
  | foreignObject hforeign => exact .cons (.foreignObject hforeign) .nil
  | foreignCustom hforeign =>
    rw [Ty.visited, if_neg hforeign]
    exact .cons (.foreignCustom hforeign) .nil
  | custom hown hbuiltin ih =>
    rw [Ty.visited, if_pos (Decidable.not_not.1 hown)]
    exact .cons (.custom hown hbuiltin) ih
  | optional hinner ih => exact .cons (.optional hinner) ih
  | sequence hinner ih => exact .cons (.sequence hinner) ih
  | map hkey hvalue ihkey ihvalue => exact .cons (.map hkey hvalue) (List.rel_append ihkey ihvalue)
  | external => exact .cons .external .nil

/-- A reference that is made has the public name of its library. -/
theorem refer_named {path name : String} {kind : ExternalKind} {flag : Bool} {t : Ty}
    (h : refer ctx path name kind flag = .ok t) {e : External} (he : .external e ∈ t.occurrences) :
    ctx.names.get? (libraryOf e.modulePath) = some e.namespaceName := by
  obtain ⟨owner, howner, rfl⟩ := map_eq_ok.1 h
  obtain rfl := Ty.external.inj (List.mem_singleton.1 he)
  exact publicName_eq_ok.1 howner

/-- Every reference in a resolved type has the public name of its library. -/
theorem named_of_resolveTy {t t' : Ty} (h : resolveTy ctx t = .ok t') {e : External}
    (he : .external e ∈ t'.occurrences) :
    ctx.names.get? (libraryOf e.modulePath) = some e.namespaceName := by
  induction t generalizing t' with
  | primitive kind =>
    obtain rfl := Except.ok.inj h
    simp [Ty.occurrences] at he
  | record path name | enumeration path name | object path name =>
    simp only [resolveTy] at h
    split at h
    · exact refer_named h he
    · obtain rfl := Except.ok.inj h
      simp [Ty.occurrences] at he
  | callback path name =>
    simp only [resolveTy] at h
    split at h
    · cases h
    · obtain rfl := Except.ok.inj h
      simp [Ty.occurrences] at he
  | custom path name builtin ih =>
    simp only [resolveTy] at h
    split at h
    · exact refer_named h he
    · obtain ⟨builtin', hbuiltin, rfl⟩ := map_eq_ok.1 h
      exact ih hbuiltin (by simpa [Ty.occurrences] using he)
  | optional inner ih | sequence inner ih =>
    obtain ⟨inner', hinner, rfl⟩ := map_eq_ok.1 h
    exact ih hinner (by simpa [Ty.occurrences] using he)
  | map key value ihkey ihvalue =>
    obtain ⟨key', hkey, hrest⟩ := bind_eq_ok.1 h
    obtain ⟨value', hvalue, hend⟩ := bind_eq_ok.1 hrest
    obtain rfl := Except.ok.inj hend
    have hinside : .external e ∈ key'.occurrences ∨ .external e ∈ value'.occurrences := by
      simpa [Ty.occurrences] using he
    exact hinside.elim (ihkey hkey) (ihvalue hvalue)
  | external target =>
    obtain ⟨owner, howner, -, rfl⟩ := stamp_eq_ok.1 h
    obtain rfl := Ty.external.inj (List.mem_singleton.1 he)
    exact howner

/-- A type that a resolved type names as a declaration belongs to the library of the item. -/
theorem Becomes.own {t t' : Ty} (h : Becomes ctx t t') {path : String}
    (hpath : t'.declaredAt? = some path) : libraryOf path = ctx.library := by
  cases h with
  | record hown | enumeration hown | object hown | callback hown | custom hown =>
    obtain rfl := Option.some.inj hpath
    exact Decidable.not_not.1 hown
  | _ => cases hpath

/-- The resolved form of a type that has one. -/
def resolvedTy (ctx : Context) (t : Ty) : Ty := (resolveTy ctx t).toOption.getD t

variable {f : Ty → Ty}

theorem resolveTy?_of_types {ty : Option Ty}
    (h : ∀ t ∈ ty.toList, resolveTy ctx t = .ok (f t)) : resolveTy? ctx ty = .ok (ty.map f) := by
  cases ty with
  | none => rfl
  | some t => simp [resolveTy?, h t (by simp)]

theorem resolveParams_of_types {inputs : List Param}
    (h : ∀ t ∈ inputs.map Param.ty, resolveTy ctx t = .ok (f t)) :
    inputs.mapM (resolveParam ctx) = .ok (inputs.map (Param.mapType f)) := by
  refine mapM_eq_ok_map fun p hp => ?_
  simp [resolveParam, Param.mapType, h p.ty (List.mem_map_of_mem hp)]

theorem resolveFields_of_types {fields : List Field}
    (h : ∀ t ∈ fields.map Field.ty, resolveTy ctx t = .ok (f t)) :
    fields.mapM (resolveField ctx) = .ok (fields.map (Field.mapType f)) := by
  refine mapM_eq_ok_map fun d hd => ?_
  simp [resolveField, Field.mapType, h d.ty (List.mem_map_of_mem hd)]

/-- An item is resolved by resolving its types. -/
theorem resolveIn_of_types {item : Item} (h : ∀ t ∈ item.types, resolveTy ctx t = .ok (f t)) :
    resolveIn ctx item = .ok (item.mapTypes f) := by
  cases item with
  | function s | constructor s | method s | traitMethod s =>
    simp only [Item.types, Item.signatureTypes, List.forall_mem_append] at h
    obtain ⟨⟨hinputs, hreturns⟩, hthrows⟩ := h
    simp [resolveIn, Item.mapTypes, resolveParams_of_types hinputs, resolveTy?_of_types hreturns,
      resolveTy?_of_types hthrows]
  | record r => simp [resolveIn, Item.mapTypes, resolveFields_of_types h]
  | enumeration e =>
    have hvariants : e.variants.mapM (resolveVariant ctx) =
        .ok (e.variants.map (Variant.mapTypes f)) := by
      refine mapM_eq_ok_map fun v hv => ?_
      have hfields : ∀ t ∈ v.fields.map Field.ty, resolveTy ctx t = .ok (f t) :=
        fun t ht => h t (List.mem_flatMap.2 ⟨v, hv, ht⟩)
      simp [resolveVariant, Variant.mapTypes, resolveFields_of_types hfields]
    simp [resolveIn, Item.mapTypes, hvariants]
  | custom c => simp [resolveIn, Item.mapTypes, h c.builtin (by simp [Item.types])]
  | space n | legacy m | object o | callback c => rfl

/-- An item can be resolved exactly when its types can be, and it then has the resolved types in
their places. -/
theorem resolveIn_eq_ok_iff {item resolved : Item} :
    resolveIn ctx item = .ok resolved ↔
      (∀ t ∈ item.types, ∃ t', resolveTy ctx t = .ok t') ∧
        resolved = item.mapTypes (resolvedTy ctx) := by
  have hall : (∀ t ∈ item.types, ∃ t', resolveTy ctx t = .ok t') →
      resolveIn ctx item = .ok (item.mapTypes (resolvedTy ctx)) := by
    intro h
    refine resolveIn_of_types fun t ht => ?_
    obtain ⟨t', ht'⟩ := h t ht
    simp [resolvedTy, ht']
  constructor
  · intro h
    have htypes : ∀ t ∈ item.types, ∃ t', resolveTy ctx t = .ok t' := by
      intro t ht
      obtain ⟨t', -, ht'⟩ := exists_right (keeps_of_resolveIn h).types ht
      exact ⟨t', ht'⟩
    exact ⟨htypes, Except.ok.inj (h.symm.trans (hall htypes))⟩
  · rintro ⟨htypes, rfl⟩
    exact hall htypes

/-- A resolved item stays in its library. -/
theorem library_of_resolve {names : Table String String} {free : List Ident} {item resolved : Item}
    (h : resolve names free item = .ok resolved) : resolved.library = item.library := by
  rw [(resolveIn_eq_ok_iff.1 h).2, Item.library_mapTypes]

/-- How a resolved item has come out of an item: what it declares is its own, its references have
the names of their libraries, each of its types is what became of one that was visited, in the same
order, and nothing but types has changed. -/
structure Resolved (ctx : Context) (item resolved : Item) : Prop where
  own : ∀ t ∈ resolved.occurrences, ∀ path, t.declaredAt? = some path →
    libraryOf path = ctx.library
  named : ∀ e, .external e ∈ resolved.occurrences →
    ctx.names.get? (libraryOf e.modulePath) = some e.namespaceName
  visited : List.Forall₂ (Becomes ctx) item.visited resolved.occurrences
  rest : ∃ f, resolved = item.mapTypes f

/-- Resolution succeeds exactly when nothing that it visits is in the way, and then it has replaced
every visited type and nothing else. -/
theorem exists_resolve_iff_resolvable (groups : GroupMap) (free : List Ident) (item : Item) :
    ((∃ resolved, resolve groups.names free item = .ok resolved) ↔
      ∀ t ∈ item.visited, Resolvable ⟨item.library, groups.names, free⟩ t) ∧
    ∀ resolved, resolve groups.names free item = .ok resolved →
      Resolved ⟨item.library, groups.names, free⟩ item resolved := by
  constructor
  · simp only [resolve, resolveIn_eq_ok_iff, exists_and_left, exists_eq, and_true,
      exists_resolveTy_iff, Item.visited, List.mem_flatMap]
    constructor
    · rintro h t ⟨u, hu, ht⟩
      exact h u hu t ht
    · exact fun h u hu t ht => h t ⟨u, hu, ht⟩
  · intro resolved h
    have hkeeps := keeps_of_resolveIn h
    have hvisited : List.Forall₂ (Becomes ⟨item.library, groups.names, free⟩) item.visited
        resolved.occurrences :=
      List.rel_flatMap hkeeps.types fun _ _ hty => (becomes_of_resolveTy hty).visited
    refine ⟨fun t ht path hpath => ?_, fun e he => ?_, hvisited, _, (resolveIn_eq_ok_iff.1 h).2⟩
    · obtain ⟨_, -, hbecomes⟩ := exists_left hvisited ht
      exact hbecomes.own hpath
    · obtain ⟨t', ht', he⟩ := List.mem_flatMap.1 he
      obtain ⟨t, -, hresolves⟩ := exists_left hkeeps.types ht'
      exact named_of_resolveTy hresolves he

/-- A key of a map and the builtin of an own custom type are visited. What stands inside a foreign
custom type is not, so a foreign callback interface does no harm there. -/
example :
    let ctx : Context := ⟨"a", .ofList [("a", "one"), ("b", "two")], [⟨"b", "R"⟩]⟩
    let hidden : Ty := .custom "b" "C" (.callback "b" "K")
    let record : External := ⟨"two", "b", "R", .dataClass, false, false⟩
    let custom : External := ⟨"two", "b", "C", .dataClass, false, true⟩
    resolveTy ctx (.map (.record "b::m" "R") (.custom "a" "D" (.optional (.record "b" "R")))) =
        .ok (.map (.external { record with modulePath := "b::m", holdsObjects := true })
          (.custom "a" "D" (.optional (.external record)))) ∧
      resolveTy ctx hidden = .ok (.external custom) ∧
      resolveTy ctx (.optional (.callback "b" "K")) = .error (.foreignCallback "a" "b" "K") :=
  ⟨rfl, rfl, rfl⟩

end Resolution
end Bindery
