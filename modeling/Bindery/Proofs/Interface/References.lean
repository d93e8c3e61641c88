import Bindery.Legacy.Items
import Bindery.Library.LegacyFile
import Bindery.Proofs.Group.Basic
import Bindery.Proofs.Group.Visits
import Bindery.Proofs.Interface.States
import Bindery.Proofs.Reachability.Fields
/-!
# References that a legacy file declares

Resolution works out the flag of a reference that it puts in the place of a record or an
enumeration. A reference that is declared already keeps the flag that it has, and a legacy file
declares all its references as such that may hold a handle. So a definition that mentions a record
of another library is the same in the metadata and in a legacy file unless that record is free of
handles, and then the two do not go into one interface.
-/
namespace Bindery

open Outcome

/-- The reference that a legacy file declares for a type of another library. It has no public name
yet, and may hold an object handle whatever it stands for. -/
def Ty.declaredReference (path name : String) (kind : ExternalKind) : Ty :=
  .external ⟨"", path, name, kind, false, true⟩

/-- A type as a legacy file of a library says it: with a declared reference in the place of every
record, enumeration, object and custom type of another library. -/
def Ty.asDeclared (library : String) : Ty → Ty
  | record path name =>
    if libraryOf path = library then record path name else declaredReference path name .dataClass
  | enumeration path name =>
    if libraryOf path = library then enumeration path name
    else declaredReference path name .dataClass
  | object path name =>
    if libraryOf path = library then object path name else declaredReference path name .interface
  | custom path name builtin =>
    if libraryOf path = library then custom path name (builtin.asDeclared library)
    else declaredReference path name .dataClass
  | optional inner => optional (inner.asDeclared library)
  | sequence inner => sequence (inner.asDeclared library)
  | map key value => map (key.asDeclared library) (value.asDeclared library)
  | t => t

/-- An item as a legacy file of its library says it. -/
def Item.asDeclared (item : Item) : Item := item.mapTypes (Ty.asDeclared item.library)

/-- The identifier of a record or an enumeration of another library. -/
def Ty.foreignIdent? (library : String) : Ty → Option Ident
  | record path name | enumeration path name =>
    if libraryOf path = library then none else some ⟨path, name⟩
  | _ => none

namespace Resolution

variable {ctx : Context}

/-- A declared reference is resolved as one that is made with the flag set. -/
theorem resolveTy_declaredReference (path name : String) (kind : ExternalKind) :
    resolveTy ctx (Ty.declaredReference path name kind) = refer ctx path name kind true := by
  simp only [Ty.declaredReference, resolveTy, stamp, refer]
  cases publicName ctx path name <;> rfl

/-- A declared reference says what resolution says where nothing is free. -/
theorem resolveTy_asDeclared (t : Ty) :
    resolveTy ctx (t.asDeclared ctx.library) = resolveTy { ctx with free := [] } t := by
  induction t with
  | primitive kind => rfl
  | record path name | enumeration path name | object path name =>
    by_cases hown : libraryOf path = ctx.library
    · simp [Ty.asDeclared, resolveTy, isForeign, hown]
    · simp [Ty.asDeclared, resolveTy, isForeign, hown, resolveTy_declaredReference, refer,
        publicName]
  | callback path name => rfl
  | custom path name builtin ih =>
    by_cases hown : libraryOf path = ctx.library
    · simp [Ty.asDeclared, resolveTy, isForeign, hown, ih]
    · simp [Ty.asDeclared, resolveTy, isForeign, hown, resolveTy_declaredReference, refer,
        publicName]
  | optional inner ih | sequence inner ih => simp only [Ty.asDeclared, resolveTy, ih]
  | map key value ihkey ihvalue => simp only [Ty.asDeclared, resolveTy, ihkey, ihvalue]
  | external target => rfl

/-- The flag of a reference that resolution makes comes out the same where nothing is free. -/
theorem refer_iff_not_mem {path name : String} {t : Ty} {id : Ident}
    (h : refer ctx path name .dataClass (decide (id ∉ ctx.free)) = .ok t) :
    refer { ctx with free := [] } path name .dataClass (decide (id ∉ ([] : List Ident))) = .ok t ↔
      id ∉ ctx.free := by
  obtain ⟨owner, howner, rfl⟩ := map_eq_ok.1 h
  have howner' : publicName { ctx with free := [] } path name = .ok owner := howner
  simp [refer, howner']

theorem isForeign_free (path : String) :
    isForeign { ctx with free := [] } path = isForeign ctx path := rfl

/-- A type becomes the same where nothing is free, unless a record or an enumeration of another
library is visited that is free. -/
theorem resolveTy_free_iff {t resolved : Ty} (h : resolveTy ctx t = .ok resolved) :
    resolveTy { ctx with free := [] } t = .ok resolved ↔
      ∀ u ∈ t.visited ctx.library, ∀ id, u.foreignIdent? ctx.library = some id → id ∉ ctx.free := by
  induction t generalizing resolved with
  | primitive kind => exact iff_of_true h (by simp [Ty.visited, Ty.foreignIdent?])
  | object path name => exact iff_of_true h (by simp [Ty.visited, Ty.foreignIdent?])
  | callback path name => exact iff_of_true h (by simp [Ty.visited, Ty.foreignIdent?])
  | external target => exact iff_of_true h (by simp [Ty.visited, Ty.foreignIdent?])
  | record path name | enumeration path name =>
    by_cases hown : libraryOf path = ctx.library
    · have hforeign : isForeign ctx path = false := by simp [isForeign, hown]
      simp only [resolveTy, isForeign_free, hforeign] at h ⊢
      exact iff_of_true h (by simp [Ty.visited, Ty.foreignIdent?, hown])
    · have hforeign : isForeign ctx path = true := by simp [isForeign, hown]
      simp only [resolveTy, isForeign_free, hforeign, if_true] at h ⊢
      simpa [Ty.visited, Ty.foreignIdent?, hown] using refer_iff_not_mem h
  | custom path name builtin ih =>
    by_cases hown : libraryOf path = ctx.library
    · have hforeign : isForeign ctx path = false := by simp [isForeign, hown]
      simp only [resolveTy, isForeign_free, hforeign, Bool.false_eq_true, if_false] at h ⊢
      obtain ⟨builtin', hbuiltin, rfl⟩ := map_eq_ok.1 h
      simpa [Ty.visited, Ty.foreignIdent?, hown, map_eq_ok] using ih hbuiltin
    · have hforeign : isForeign ctx path = true := by simp [isForeign, hown]
      simp only [resolveTy, isForeign_free, hforeign, if_true] at h ⊢
      exact iff_of_true h (by simp [Ty.visited, Ty.foreignIdent?, hown])
  | optional inner ih | sequence inner ih =>
    obtain ⟨inner', hinner, rfl⟩ := map_eq_ok.1 h
    simpa [resolveTy, Ty.visited, Ty.foreignIdent?, map_eq_ok] using ih hinner
  | map key value ihkey ihvalue =>
    obtain ⟨key', hkey, h⟩ := bind_eq_ok.1 h
    obtain ⟨value', hvalue, h⟩ := bind_eq_ok.1 h
    obtain rfl := Except.ok.inj h
    have hboth := and_congr (ihkey hkey) (ihvalue hvalue)
    simpa [resolveTy, Ty.visited, Ty.foreignIdent?, bind_eq_ok, or_imp, forall_and] using hboth

theorem resolveIn_mapTypes {ctx ctx' : Context} {f : Ty → Ty}
    (h : ∀ t, resolveTy ctx (f t) = resolveTy ctx' t) (item : Item) :
    resolveIn ctx (item.mapTypes f) = resolveIn ctx' item := by
  have hty? : ∀ ty : Option Ty, resolveTy? ctx (ty.map f) = resolveTy? ctx' ty := by
    intro ty
    cases ty <;> simp [resolveTy?, h]
  have hparams : ∀ ps : List Param,
      (ps.map (Param.mapType f)).mapM (resolveParam ctx) = ps.mapM (resolveParam ctx') := by
    intro ps
    rw [List.mapM_map]
    refine congrArg (List.mapM · ps) (funext fun p => ?_)
    simp [resolveParam, Param.mapType, h]
  have hfields : ∀ fs : List Field,
      (fs.map (Field.mapType f)).mapM (resolveField ctx) = fs.mapM (resolveField ctx') := by
    intro fs
    rw [List.mapM_map]
    refine congrArg (List.mapM · fs) (funext fun d => ?_)
    simp [resolveField, Field.mapType, h]
  have hvariants : ∀ vs : List Variant,
      (vs.map (Variant.mapTypes f)).mapM (resolveVariant ctx) = vs.mapM (resolveVariant ctx') := by
    intro vs
    rw [List.mapM_map]
    refine congrArg (List.mapM · vs) (funext fun v => ?_)
    simp [resolveVariant, Variant.mapTypes, hfields]
  cases item <;> simp [resolveIn, Item.mapTypes, hty?, hparams, hfields, hvariants, h]

/-- An item with declared references is resolved as if no identifier were free. -/
theorem resolve_asDeclared (names : Table String String) (free : List Ident) (item : Item) :
    resolve names free item.asDeclared = resolve names [] item := by
  rw [resolve, Item.asDeclared, Item.library_mapTypes]
  exact resolveIn_mapTypes (fun t => resolveTy_asDeclared t) item

/-- The types of a resolved item are the resolved forms of the types of the item. -/
theorem types_of_resolveIn {item resolved : Item} (h : resolveIn ctx item = .ok resolved) :
    resolved.types = item.types.map (resolvedTy ctx) := by
  have hmap := map_eq_of_related (f := resolvedTy ctx) (g := id) (keeps_of_resolveIn h).types
    fun t t' ht => by simp [resolvedTy, show resolveTy ctx t = .ok t' from ht]
  rw [hmap, List.map_id]

/-- An item becomes the same in two contexts if its types do. -/
theorem resolveIn_iff_of_resolveIn {ctx' : Context} {item resolved : Item}
    (h : resolveIn ctx item = .ok resolved) :
    resolveIn ctx' item = .ok resolved ↔
      ∀ t ∈ item.types, ∀ t', resolveTy ctx t = .ok t' → resolveTy ctx' t = .ok t' := by
  constructor
  · intro h' t ht t' htt'
    have hresolves := (keeps_of_resolveIn h').types
    rw [types_of_resolveIn h, List.forall₂_map_right_iff, List.forall₂_same] at hresolves
    have hsame : resolvedTy ctx t = t' := by simp [resolvedTy, htt']
    exact hsame ▸ hresolves t ht
  · intro hall
    obtain ⟨hsuccess, rfl⟩ := resolveIn_eq_ok_iff.1 h
    refine resolveIn_of_types fun t ht => ?_
    obtain ⟨t', ht'⟩ := hsuccess t ht
    have hsame : resolvedTy ctx t = t' := by simp [resolvedTy, ht']
    exact hsame ▸ hall t ht t' ht'

/-- An item and the same item with declared references become the same unless it shows a record or
an enumeration of another library that is free. -/
theorem resolve_asDeclared_iff {names : Table String String} {free : List Ident}
    {item resolved : Item} (h : resolve names free item = .ok resolved) :
    resolve names free item.asDeclared = .ok resolved ↔
      ∀ u ∈ item.visited, ∀ id, u.foreignIdent? item.library = some id → id ∉ free := by
  rw [resolve_asDeclared, resolve, resolveIn_iff_of_resolveIn h]
  simp only [Item.visited, List.mem_flatMap, forall_exists_index, and_imp]
  constructor
  · intro hall u t ht hu
    obtain ⟨t', ht'⟩ := (resolveIn_eq_ok_iff.1 h).1 t ht
    exact (resolveTy_free_iff ht').1 (hall t ht t' ht') u hu
  · intro hall t ht t' ht'
    exact (resolveTy_free_iff ht').2 fun u hu => hall u t ht hu

/-- An item with declared references can be resolved where the item can. -/
theorem exists_resolve_asDeclared {names : Table String String} {free : List Ident}
    {item resolved : Item} (h : resolve names free item = .ok resolved) :
    ∃ twin, resolve names free item.asDeclared = .ok twin := by
  have hsame : ∀ u, Resolvable ⟨item.library, names, free⟩ u ↔
      Resolvable ⟨item.library, names, []⟩ u := by
    simp [resolvable_iff]
  rw [resolve_asDeclared]
  refine ⟨_, resolveIn_eq_ok_iff.2 ⟨fun t ht => ?_, rfl⟩⟩
  rw [exists_resolveTy_iff]
  have hall := (exists_resolveTy_iff _ t).1 ((resolveIn_eq_ok_iff.1 h).1 t ht)
  exact fun u hu => (hsame u).1 (hall u hu)

/-- Every reference in a resolved item to a listed record or enumeration, which was written as such
or as a reference, has the flag that the items tell. -/
def OneFlag (items : List Item) (item resolved : Item) : Prop :=
  ∀ t e, (t, .external e) ∈ item.visited.zip resolved.occurrences →
    (∀ path name builtin, t ≠ .custom path name builtin) → e.kind = .dataClass →
    Reachability.Known items e.ident →
    (e.holdsObjects = true ↔ e.ident ∉ GroupMap.freeOf items)

/-- Whatever is visited in an item becomes what stands in the resolved item. -/
theorem visited_of_resolve {names : Table String String} {free : List Ident}
    {item resolved : Item} (h : resolve names free item = .ok resolved) :
    List.Forall₂ (Becomes ⟨item.library, names, free⟩) item.visited resolved.occurrences :=
  List.rel_flatMap (keeps_of_resolveIn h).types fun _ _ hty => (becomes_of_resolveTy hty).visited

/-- The flags are one exactly if every reference to a known type was written with the right one. -/
theorem oneFlag_iff {items : List Item} {names : Table String String} {item resolved : Item}
    (h : resolve names (GroupMap.freeOf items) item = .ok resolved) :
    OneFlag items item resolved ↔
      ∀ e, .external e ∈ item.visited → e.kind = .dataClass → Reachability.Known items e.ident →
        (e.holdsObjects = true ↔ e.ident ∉ GroupMap.freeOf items) := by
  have hvisited := visited_of_resolve h
  constructor
  · intro hflags e he hkind hknown
    obtain ⟨u, hu, hbecomes⟩ := exists_zip hvisited he
    cases hbecomes with
    | @external _ owner =>
      exact hflags (.external e) { e with namespaceName := owner } hu nofun hkind hknown
  · intro hdeclared t e he hcustom hkind hknown
    cases (List.forall₂_iff_zip.1 hvisited).2 he with
    | foreignRecord | foreignEnumeration => exact decide_eq_true_iff
    | foreignObject => cases hkind
    | foreignCustom => exact absurd rfl (hcustom _ _ _)
    | @external target _ => exact hdeclared target (List.of_mem_zip he).1 hkind hknown

end Resolution

namespace Interface

theorem slot?_mapTypes (f : Ty → Ty) (item : Item) : (item.mapTypes f).slot? = item.slot? := by
  cases item <;> rfl

/-- A definition finds room behind another one of its slot exactly if it is the same. -/
theorem exists_addItem_again_iff {i i' : Interface} {first second : Item} {slot : Slot}
    (hfirst : first.slot? = some slot) (hsecond : second.slot? = some slot)
    (h : i.addItem first = .ok i') : (∃ j, i'.addItem second = .ok j) ↔ first = second := by
  have henters := enters_of_addItem hfirst h
  have hat : i'.at? slot = some first := by rw [henters.after, if_pos rfl]
  rw [exists_addItem_iff]
  constructor
  · intro hadmits
    simpa [hat] using hadmits.slot slot hsecond
  · rintro rfl
    have hadmits := exists_addItem_iff.1 ⟨i', h⟩
    refine ⟨fun s hs => ?_, fun kind name hs => ?_, fun s hs owner kinds howner => ?_⟩
    · obtain rfl := Option.some.inj (hfirst.symm.trans hs)
      exact .inr hat
    · obtain rfl := Option.some.inj (hfirst.symm.trans hs)
      simp [henters.kinds, Slot.kindOf?]
    · obtain ⟨kind, hkind, hdeclared⟩ := hadmits.owner s hs owner kinds howner
      obtain ⟨known, hknown⟩ := mem_declared_iff.1 hdeclared
      refine ⟨kind, hkind, mem_declared_iff.2 ?_⟩
      rw [henters.after]
      split
      · exact ⟨_, rfl⟩
      · exact ⟨known, hknown⟩

end Interface

namespace Resolution

/-- Two ways to write a reference. The flag of one that was written as a record or an enumeration is
that of its target, so all flags are right if those that were there before are. An item and the same
item with declared references go into one interface exactly if no record or enumeration of another
library that the item shows is free. -/
theorem flags_merge_iff (items : List Item) (names : Table String String) {item resolved : Item}
    (h : resolve names (GroupMap.freeOf items) item = .ok resolved) :
    (OneFlag items item resolved ↔
      ∀ e, .external e ∈ item.visited → e.kind = .dataClass → Reachability.Known items e.ident →
        (e.holdsObjects = true ↔ e.ident ∉ GroupMap.freeOf items)) ∧
    ∃ twin, resolve names (GroupMap.freeOf items) item.asDeclared = .ok twin ∧
      ∀ i i' : Interface, i.addItem twin = .ok i' →
        ((∃ j, i'.addItem resolved = .ok j) ↔ ∀ t ∈ item.visited, ∀ id,
          t.foreignIdent? item.library = some id → id ∉ GroupMap.freeOf items) := by
  refine ⟨oneFlag_iff h, ?_⟩
  obtain ⟨twin, htwin⟩ := exists_resolve_asDeclared h
  refine ⟨twin, htwin, fun i i' hadded => ?_⟩
  have hresolvedSlot : resolved.slot? = item.slot? := by
    rw [(resolveIn_eq_ok_iff.1 h).2, Interface.slot?_mapTypes]
  have htwinSlot : twin.slot? = item.slot? := by
    rw [(resolveIn_eq_ok_iff.1 htwin).2, Interface.slot?_mapTypes, Item.asDeclared,
      Interface.slot?_mapTypes]
  rw [← resolve_asDeclared_iff h, htwin, Except.ok.injEq]
  cases hslot : item.slot? with
  | some slot =>
    exact Interface.exists_addItem_again_iff (htwinSlot.trans hslot) (hresolvedSlot.trans hslot)
      hadded
  | none =>
    cases item with
    | space n | legacy m =>
      obtain rfl := Except.ok.inj h
      obtain rfl := Except.ok.inj htwin
      exact iff_of_true ⟨i', rfl⟩ rfl
    | _ => cases hslot

def sharedFunction : Item := .function {
  modulePath := "a", name := "make", inputs := [], returns := some (.record "b" "R") }

def sharedResult (holdsObjects : Bool) : Item := .function {
  modulePath := "a", name := "make", inputs := []
  returns := some (.external ⟨"two", "b", "R", .dataClass, false, holdsObjects⟩) }

/-- A function that gives a record of another library, and that record with one field. -/
def sharedItems (content : Ty) : List Item := [
  .space ⟨"a", "one"⟩, .space ⟨"b", "two"⟩, .legacy ⟨"a", "one", "one"⟩,
  .object { modulePath := "b", name := "O" },
  .record { modulePath := "b", name := "R", fields := [⟨"x", content, none, none⟩] },
  sharedFunction]

def sharedGroups (content : Ty) : GroupMap :=
  (GroupMap.ofItems (sharedItems content)).toOption.getD .empty

/-- The same function in a legacy file. -/
def sharedText : List Char :=
  "namespace one \x7b R make(); \x7d;\n[External=\"b\"] typedef extern R;".toList

def sharedLegacy (function : Item) : Group := {
  space := ⟨"a", "one"⟩
  items := [function]
  nodup := List.nodup_singleton function }

theorem flags_merge_iff_shared :
    resolve (sharedGroups (.object "b" "O")).names
        (GroupMap.freeOf (sharedItems (.object "b" "O"))) sharedFunction = .ok (sharedResult true) ∧
      OneFlag (sharedItems (.object "b" "O")) sharedFunction (sharedResult true) ∧
      ∃ twin, resolve (sharedGroups (.object "b" "O")).names
          (GroupMap.freeOf (sharedItems (.object "b" "O"))) sharedFunction.asDeclared = .ok twin ∧
        ∀ i i' : Interface, i.addItem twin = .ok i' → ∃ j, i'.addItem (sharedResult true) = .ok j := by
  have hresolved : resolve (sharedGroups (.object "b" "O")).names
      (GroupMap.freeOf (sharedItems (.object "b" "O"))) sharedFunction = .ok (sharedResult true) :=
    rfl
  obtain ⟨hflags, twin, htwin, hmerge⟩ := flags_merge_iff _ _ hresolved
  refine ⟨hresolved, hflags.2 ?_, twin, htwin, fun i i' hadded => (hmerge i i' hadded).2 ?_⟩
  · intro e he
    cases List.mem_singleton.1 he
  · decide

/-- The record has no handle, and the metadata says so. The legacy file says that it may have one,
and then the two definitions of the function are a conflict. -/
theorem flags_differ_shared :
    let items := sharedItems (.primitive .string)
    let groups := sharedGroups (.primitive .string)
    GroupMap.ofItems items = .ok groups ∧
      Legacy.read "a" sharedText = .ok (sharedLegacy sharedFunction.asDeclared) ∧
      (Library.resolveGroup groups (GroupMap.freeOf items)
        (sharedLegacy sharedFunction.asDeclared)).toOption = some (sharedLegacy (sharedResult true)) ∧
      ¬OneFlag items sharedFunction.asDeclared (sharedResult true) ∧
      ∃ own, groups.get? "a" = some own ∧ sharedResult false ∈ own.items ∧
        (Interface.empty "a").addGroups [sharedLegacy (sharedResult true), own] =
          .error ⟨"a", .functionConflict "make"⟩ := by
  refine ⟨rfl, by decide +kernel, by decide +kernel, fun hflags => ?_, _, rfl, by decide +kernel,
    by decide +kernel⟩
  have hpair : (Ty.declaredReference "b" "R" .dataClass,
      Ty.external ⟨"two", "b", "R", .dataClass, false, true⟩) ∈
      sharedFunction.asDeclared.visited.zip (sharedResult true).occurrences := by decide
  have hknown : Reachability.Known (sharedItems (.primitive .string)) ⟨"b", "R"⟩ := by
    simp [Reachability.Known, sharedItems, Item.ident?]
  exact (hflags _ _ hpair (by simp [Ty.declaredReference]) rfl hknown).1 rfl (by decide)

end Resolution
end Bindery
