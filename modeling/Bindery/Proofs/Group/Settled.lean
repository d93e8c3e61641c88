import Bindery.Proofs.Group.Visits
/-!
# Resolution settles

Nothing is left to resolve where every declaration is named inside its own library and every
reference bears the public name of its library. Such a type stays as it is, whatever identifiers
are free. Resolution ends with such types only, so a second resolution changes nothing.
-/
namespace Bindery.Resolution

open Outcome

variable {ctx : Context}

/-- Nothing is left to resolve among the types that stand somewhere. -/
structure Settled (ctx : Context) (standing : List Ty) : Prop where
  own : ∀ t ∈ standing, ∀ path, t.declaredAt? = some path → libraryOf path = ctx.library
  named : ∀ e, .external e ∈ standing →
    ctx.names.get? (libraryOf e.modulePath) = some e.namespaceName

theorem Settled.mono {few many : List Ty} (h : Settled ctx many) (hsub : ∀ t ∈ few, t ∈ many) :
    Settled ctx few where
  own := fun t ht => h.own t (hsub t ht)
  named := fun e he => h.named e (hsub _ he)

theorem settled_flatMap {ts : List Ty} :
    Settled ctx (ts.flatMap Ty.occurrences) ↔ ∀ t ∈ ts, Settled ctx t.occurrences := by
  constructor
  · intro h t ht
    exact h.mono fun u hu => List.mem_flatMap.2 ⟨t, ht, hu⟩
  · intro h
    constructor
    · intro u hu path hpath
      obtain ⟨t, ht, hu⟩ := List.mem_flatMap.1 hu
      exact (h t ht).own u hu path hpath
    · intro e he
      obtain ⟨t, ht, he⟩ := List.mem_flatMap.1 he
      exact (h t ht).named e he

/-- Whether anything is left to resolve does not depend on the free identifiers. -/
theorem Settled.forget_free {standing : List Ty} (h : Settled ctx standing) (free : List Ident) :
    Settled { ctx with free } standing :=
  ⟨h.own, h.named⟩

/-- Resolution ends with settled types only. -/
theorem settled_of_resolveTy {t resolved : Ty} (h : resolveTy ctx t = .ok resolved) :
    Settled ctx resolved.occurrences where
  own := by
    intro u hu path hpath
    obtain ⟨_, -, hbecomes⟩ := exists_left (becomes_of_resolveTy h).visited hu
    exact hbecomes.own hpath
  named := fun _ he => named_of_resolveTy h he

/-- A declaration that is settled is not foreign, so no reference is put in its place. -/
theorem Settled.isForeign_eq_false {t : Ty} (h : Settled ctx t.occurrences) {path : String}
    (hpath : t.declaredAt? = some path) : isForeign ctx path = false := by
  have hown := h.own t t.mem_occurrences_self path hpath
  simp [isForeign, hown]

/-- A settled type is its own resolved form. A name that is there already agrees, an empty one
included, so its stamp is the same. -/
theorem resolveTy_of_settled {t : Ty} (h : Settled ctx t.occurrences) :
    resolveTy ctx t = .ok t := by
  induction t with
  | primitive kind => rfl
  | record path name | enumeration path name | object path name | callback path name =>
    simp [resolveTy, h.isForeign_eq_false rfl]
  | custom path name builtin ih =>
    have hbuiltin := ih (h.mono fun u hu => by simp [Ty.occurrences, hu])
    simp [resolveTy, h.isForeign_eq_false rfl, hbuiltin]
  | optional inner ih | sequence inner ih =>
    have hinner := ih (h.mono fun u hu => by simp [Ty.occurrences, hu])
    simp [resolveTy, hinner]
  | map key value ihkey ihvalue =>
    have hkey := ihkey (h.mono fun u hu => by simp [Ty.occurrences, hu])
    have hvalue := ihvalue (h.mono fun u hu => by simp [Ty.occurrences, hu])
    simp [resolveTy, hkey, hvalue]
  | external e =>
    have howner := h.named e (Ty.mem_occurrences_self _)
    exact stamp_eq_ok.2 ⟨e.namespaceName, howner, fun _ => rfl, rfl⟩

/-- What has been resolved is settled. -/
theorem settled_of_resolveIn {item resolved : Item} (h : resolveIn ctx item = .ok resolved) :
    Settled ctx resolved.occurrences := by
  refine settled_flatMap.2 fun t ht => ?_
  obtain ⟨_, -, hresolves⟩ := exists_left (keeps_of_resolveIn h).types ht
  exact settled_of_resolveTy hresolves

theorem resolveIn_of_settled {item : Item} (h : Settled ctx item.occurrences) :
    resolveIn ctx item = .ok item := by
  have htypes := settled_flatMap.1 h
  have hall : ∀ t ∈ item.types, resolveTy ctx t = .ok (id t) :=
    fun t ht => resolveTy_of_settled (htypes t ht)
  rw [resolveIn_of_types hall, Item.mapTypes_id]

/-- To resolve what was resolved with the same groups changes nothing, whatever is free by then: in
a type for any library, and in an item for its own. -/
theorem resolve_idempotent (groups : GroupMap) (free again : List Ident) :
    (∀ library t resolved, resolveTy ⟨library, groups.names, free⟩ t = .ok resolved →
      resolveTy ⟨library, groups.names, again⟩ resolved = .ok resolved) ∧
    ∀ item resolved, resolve groups.names free item = .ok resolved →
      resolve groups.names again resolved = .ok resolved := by
  constructor
  · intro library t resolved h
    exact resolveTy_of_settled ((settled_of_resolveTy h).forget_free again)
  · intro item resolved h
    have hlibrary := library_of_resolve h
    have hsettled := (settled_of_resolveIn h).forget_free again
    rw [← hlibrary] at hsettled
    exact resolveIn_of_settled hsettled

/-- Two libraries of which the first has an empty public name. -/
def unnamedGroups : GroupMap := .ofList [("a", .empty ⟨"a", ""⟩), ("b", .empty ⟨"b", "two"⟩)]

/-- A reference to a record, as it stands in a library that knows its public name or not yet. -/
def recordReference (library publicName : String) (holdsObjects : Bool) : Ty :=
  .external ⟨publicName, library, "R", .dataClass, false, holdsObjects⟩

/-- A function of the first library with a foreign record, a reference to its own library and one
to the other. -/
def unnamedFunction (record theirs : Ty) : Item := .function {
  modulePath := "a::m", name := "f", inputs := [⟨"x", .map record (recordReference "a" "" true)⟩]
  returns := some (.custom "a" "C" record), throws := some theirs }

/-- Before any resolution, with a reference that has no name yet. -/
def unstampedFunction : Item := unnamedFunction (.record "b" "R") (recordReference "b" "" true)

/-- The same with every name in its place. -/
def stampedFunction : Item :=
  unnamedFunction (recordReference "b" "two" false) (recordReference "b" "two" true)

/-- A reference to the own library keeps its empty name, one that has its name already keeps it,
and the flag of a record that was free stays when it is free no longer. -/
theorem resolve_idempotent_unnamed :
    resolve unnamedGroups.names [⟨"b", "R"⟩] unstampedFunction = .ok stampedFunction ∧
      resolve unnamedGroups.names [] stampedFunction = .ok stampedFunction := by
  have hfirst : resolve unnamedGroups.names [⟨"b", "R"⟩] unstampedFunction =
      .ok stampedFunction := rfl
  exact ⟨hfirst, (resolve_idempotent unnamedGroups _ _).2 _ _ hfirst⟩

end Bindery.Resolution
