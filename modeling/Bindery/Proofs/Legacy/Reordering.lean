import Bindery.Proofs.Group.Order
import Bindery.Proofs.Legacy.Names
/-!
# Definitions in another order

A file is looked at three times: for the names that are declared first, for the custom types, and
for the items. Only the look for custom types can tell in which order definitions stand, and it
passes over all others. So the definitions of a file can change places as long as its custom types
keep theirs.
-/
namespace Bindery.Legacy

open Outcome

variable {library : String} {declared declared' : Declared} {s s' : Scope} {d e : Definition}

/-- Two tables in which every name stands for the same. -/
def SameNames (declared declared' : Declared) : Prop :=
  ∀ name, declared.get? name = declared'.get? name

theorem SameNames.insert (h : SameNames declared declared') (name : String) (ty : Ty) :
    SameNames (declared.insert name ty) (declared'.insert name ty) := by
  intro other
  rw [Table.get?_insert, Table.get?_insert, h other]

theorem SameNames.declare (h : SameNames declared declared') {name : Word} {ty : Ty}
    {more : Declared} (hmore : Legacy.declare declared name ty = .ok more) :
    ∃ more', Legacy.declare declared' name ty = .ok more' ∧ SameNames more more' := by
  obtain ⟨hfree, hnew, rfl⟩ := declare_eq_ok_iff.1 hmore
  exact ⟨_, declare_eq_ok_iff.2 ⟨hfree, h _ ▸ hnew, rfl⟩, h.insert _ _⟩

/-- A type is found by the names there are, in whatever order they came. -/
theorem tyOf_congr (h : SameNames declared declared') : tyOf declared = tyOf declared' := by
  funext e
  induction e with
  | named w => simp only [tyOf, h w.text]
  | sequence inner ih | optional inner ih => simp only [tyOf, ih]
  | map key value ihkey ihvalue => simp only [tyOf, ihkey, ihvalue]

/-- Two scopes of one library in which every name stands for the same. -/
structure Scope.Alike (s s' : Scope) : Prop where
  library : s.library = s'.library
  names : SameNames s.declared s'.declared

section
variable (h : s.Alike s')
include h

theorem paramsOf_congr : paramsOf s = paramsOf s' := by
  have hparam : paramOf s = paramOf s' := by
    funext p
    simp only [paramOf, tyOf_congr h.names]
  funext ps
  simp only [paramsOf, hparam]

theorem throwsOf_congr : throwsOf s = throwsOf s' := by
  funext attributes mark
  simp only [throwsOf, h.names _]

theorem signatureOf_congr : signatureOf s = signatureOf s' := by
  funext f
  have hresult : resultOf s = resultOf s' := by
    funext result
    cases result <;> simp only [resultOf, tyOf_congr h.names]
  simp only [signatureOf, paramsOf_congr h, throwsOf_congr h, hresult]

theorem traitMethodItems_congr : traitMethodItems s = traitMethodItems s' := by
  funext owner index functions
  induction functions generalizing index with
  | nil => rfl
  | cons f functions ih => simp only [traitMethodItems, signatureOf_congr h, h.library, ih]

theorem interfaceItems_congr : interfaceItems s = interfaceItems s' := by
  have hvariant : variantOf s = variantOf s' := by
    funext v
    simp only [variantOf, paramsOf_congr h]
  have hconstructor : constructorItem s = constructorItem s' := by
    funext owner c
    simp only [constructorItem, paramsOf_congr h, throwsOf_congr h, h.library]
  have hmethod : methodItem s = methodItem s' := by
    funext owner f
    simp only [methodItem, signatureOf_congr h, h.library]
  funext notes d members
  simp only [interfaceItems, hvariant, hconstructor, hmethod, traitMethodItems_congr h, h.library]

/-- A definition makes the same items in scopes with the same names. -/
theorem definitionItems_congr : definitionItems s = definitionItems s' := by
  have hfunction : functionItem s = functionItem s' := by
    funext f
    simp only [functionItem, signatureOf_congr h, h.library]
  have hfield : fieldOf s = fieldOf s' := by
    funext f
    simp only [fieldOf, tyOf_congr h.names]
  funext d
  simp only [definitionItems, hfunction, hfield, interfaceItems_congr h, traitMethodItems_congr h,
    h.library]

end

/-- Two states of the first look at a file in which every name stands for the same. -/
structure Names.Alike (names names' : Names) : Prop where
  space : names.space = names'.space
  declared : SameNames names.declared names'.declared

theorem Names.Alike.refl (names : Names) : names.Alike names := ⟨rfl, fun _ => rfl⟩

theorem Names.Alike.trans {names names' names'' : Names} (h : names.Alike names')
    (h' : names'.Alike names'') : names.Alike names'' :=
  ⟨h.space.trans h'.space, fun name => (h.declared name).trans (h'.declared name)⟩

/-- A definition collects alike from names that are alike. -/
theorem Collects.alike {names names' next : Names} (halike : names.Alike names')
    (h : Collects library d names next) :
    ∃ next', Collects library d names' next' ∧ next.Alike next' := by
  cases h with
  | space hbody hfirst =>
    exact ⟨_, .space hbody (halike.space ▸ hfirst), rfl, halike.declared⟩
  | type henters hnew =>
    exact ⟨_, .type henters (halike.declared _ ▸ hnew), halike.space, halike.declared.insert _ _⟩
  | none hnotes hdeclares hty => exact ⟨_, .none hnotes hdeclares hty, halike⟩

/-- Two definitions in a row do the same to the names in the other order. -/
theorem Collects.swap {names next last : Names} (hd : Collects library d names next)
    (he : Collects library e next last) :
    ∃ next' last', Collects library e names next' ∧ Collects library d next' last' ∧
      last.Alike last' := by
  cases hd with
  | space hbody hfirst =>
    cases he with
    | space _ hfirst' => cases hfirst'
    | type henters hnew => exact ⟨_, _, .type henters hnew, .space hbody hfirst, .refl _⟩
    | none hnotes hdeclares hty =>
      exact ⟨_, _, .none hnotes hdeclares hty, .space hbody hfirst, .refl _⟩
  | @type entry henters hnew =>
    cases he with
    | space hbody hfirst => exact ⟨_, _, .space hbody hfirst, .type henters hnew, .refl _⟩
    | @type entry' henters' hnew' =>
      rw [Table.get?_insert] at hnew'
      split at hnew'
      · cases hnew'
      · rename_i hne
        refine ⟨_, _, .type henters' hnew', .type henters ?_, rfl, fun name => ?_⟩
        · rw [Table.get?_insert, if_neg (Ne.symm hne), hnew]
        · simp only [Table.get?_insert]
          split <;> simp_all
    | none hnotes hdeclares hty =>
      exact ⟨_, _, .none hnotes hdeclares hty, .type henters hnew, .refl _⟩
  | none hnotes hdeclares hty => exact ⟨_, _, he, .none hnotes hdeclares hty, .refl _⟩

/-- The names of a file do not depend on the order of its definitions. -/
theorem collect_perm {file file' : File} (hperm : file.Perm file') {space : String}
    (h : collect library file = .ok (space, declared)) :
    ∃ declared', collect library file' = .ok (space, declared') ∧ SameNames declared declared' := by
  obtain ⟨names, hnames, h⟩ := bind_eq_ok.1 h
  obtain ⟨names', hnames', halike⟩ := foldlM_perm (S := Names.Alike)
    (fun _ _ _ _ halike hstep => by
      simp only [collectOne_eq_ok_iff] at hstep ⊢
      exact hstep.alike halike)
    .refl (fun _ _ _ => .trans)
    (fun _ _ _ _ _ hd he => by
      simp only [collectOne_eq_ok_iff] at hd he ⊢
      exact hd.swap he)
    hperm (.refl {}) hnames
  cases hspace : names.space with
  | none =>
    simp only [hspace] at h
    cases h
  | some name =>
    simp only [hspace] at h
    obtain ⟨rfl, rfl⟩ := Prod.mk.inj (Except.ok.inj h)
    refine ⟨names'.declared, bind_eq_ok.2 ⟨names', hnames', ?_⟩, halike.declared⟩
    simp only [← halike.space, hspace]
    rfl

/-- A typedef with the attribute for custom types that has none for types of other libraries. -/
def Definition.isMarkedCustom (d : Definition) : Bool :=
  d.isCustom && d.notes?.any (·.contains "Custom")

/-- Two states of the second look at a file. -/
structure SameState (state state' : Scope × List Item) : Prop where
  scope : state.1.Alike state'.1
  items : state.2 = state'.2

theorem customItem_alike (h : s.Alike s') {name : Word} {target : TypedefTarget} {scope : Scope}
    {item : Item} (hitem : customItem s name target = .ok (scope, item)) :
    ∃ scope', customItem s' name target = .ok (scope', item) ∧ scope.Alike scope' := by
  cases target with
  | foreign => cases hitem
  | type e =>
    obtain ⟨builtin, hbuiltin, hitem⟩ := bind_eq_ok.1 hitem
    obtain ⟨declared, hdeclared, hitem⟩ := bind_eq_ok.1 hitem
    obtain ⟨rfl, rfl⟩ := Prod.mk.inj (Except.ok.inj hitem)
    rw [tyOf_congr h.names] at hbuiltin
    rw [h.library] at hdeclared
    obtain ⟨declared', hdeclared', hnames⟩ := h.names.declare hdeclared
    refine ⟨⟨s'.library, declared'⟩, ?_, h.library, hnames⟩
    rw [h.library]
    exact bind_eq_ok.2 ⟨builtin, hbuiltin, bind_eq_ok.2 ⟨declared', hdeclared', rfl⟩⟩

theorem Customizes.alike {state state' next : Scope × List Item} (h : SameState state state')
    (hnext : Customizes d state next) :
    ∃ next', Customizes d state' next' ∧ SameState next next' := by
  cases hnext with
  | custom hbody hnotes hown hmarked hitem =>
    obtain ⟨scope', hitem', halike⟩ := customItem_alike h.scope hitem
    exact ⟨_, .custom hbody hnotes hown hmarked hitem', halike, by rw [h.items]⟩
  | external hbody hnotes hexternal => exact ⟨_, .external hbody hnotes hexternal, h⟩
  | other hbody => exact ⟨_, .other hbody, h⟩

/-- A definition that is not a custom type does nothing to the state, and does not even look at
it. -/
theorem Customizes.pass {state next : Scope × List Item} (hd : d.isMarkedCustom = false)
    (h : Customizes d state next) : next = state ∧ ∀ other, Customizes d other other := by
  cases h with
  | custom hbody hnotes hown hmarked _ =>
    simp [Definition.isMarkedCustom, Definition.isCustom, Definition.isExternal, hbody,
      Definition.notes?_eq hnotes, hown, hmarked] at hd
  | external hbody hnotes hexternal => exact ⟨rfl, fun _ => .external hbody hnotes hexternal⟩
  | other hbody => exact ⟨rfl, fun _ => .other hbody⟩

/-- Only the definitions that are marked as custom change the scope. -/
theorem customs_eq_ok_iff {file : File} {state last : Scope × List Item} :
    file.foldlM collectCustom state = .ok last ↔
      (file.filter Definition.isMarkedCustom).foldlM collectCustom state = .ok last ∧
        ∀ d ∈ file, d.isMarkedCustom = false → ∀ state, Customizes d state state := by
  induction file generalizing state with
  | nil => simp
  | cons d file ih =>
    rw [List.foldlM_cons, List.forall_mem_cons]
    cases hd : d.isMarkedCustom with
    | true =>
      rw [List.filter_cons_of_pos hd, List.foldlM_cons]
      simp only [bind_eq_ok, ih]
      grind
    | false =>
      rw [List.filter_cons_of_neg (by simp [hd])]
      constructor
      · intro h
        obtain ⟨next, hnext, hrest⟩ := bind_eq_ok.1 h
        obtain ⟨rfl, hpass⟩ := (collectCustom_eq_ok_iff.1 hnext).pass hd
        exact ⟨(ih.1 hrest).1, fun _ => hpass, (ih.1 hrest).2⟩
      · rintro ⟨hmarked, hpass, hrest⟩
        rw [collectCustom_eq_ok_iff.2 (hpass rfl state), ok_bind]
        exact ih.2 ⟨hmarked, hrest⟩

/-- The custom types of a file depend on their own order only. -/
theorem customs_perm {file file' : File} (hperm : file.Perm file')
    (hmarked : file.filter Definition.isMarkedCustom = file'.filter Definition.isMarkedCustom)
    {state state' last : Scope × List Item} (hstate : SameState state state')
    (h : file.foldlM collectCustom state = .ok last) :
    ∃ last', file'.foldlM collectCustom state' = .ok last' ∧ SameState last last' := by
  obtain ⟨hcustoms, hothers⟩ := customs_eq_ok_iff.1 h
  obtain ⟨last', hlast', halike⟩ :=
    foldlM_of_alike (S := SameState) (fun _ _ _ _ halike hstep => by
      simp only [collectCustom_eq_ok_iff] at hstep ⊢
      exact hstep.alike halike) hstate hcustoms
  refine ⟨last', customs_eq_ok_iff.2 ⟨hmarked ▸ hlast', fun d hd => ?_⟩, halike⟩
  exact hothers d (hperm.mem_iff.2 hd)

theorem groupOf_of_perm {file file' : File} (hperm : file.Perm file')
    (hmarked : file.filter Definition.isMarkedCustom = file'.filter Definition.isMarkedCustom)
    {g : Group} (h : groupOf library file = .ok g) :
    ∃ g', groupOf library file' = .ok g' ∧ GroupMap.SameGroup g g' := by
  obtain ⟨⟨_, items⟩, hitems, h⟩ := bind_eq_ok.1 h
  obtain ⟨⟨space, declared⟩, hcollect, hitems⟩ := bind_eq_ok.1 hitems
  obtain ⟨⟨s, made⟩, hcustoms, hitems⟩ := bind_eq_ok.1 hitems
  obtain ⟨itemss, hdefinitions, hitems⟩ := bind_eq_ok.1 hitems
  obtain ⟨rfl, rfl⟩ := Prod.mk.inj (Except.ok.inj hitems)
  obtain ⟨declared', hcollect', hnames⟩ := collect_perm hperm hcollect
  have hstart : SameState (⟨library, declared⟩, []) (⟨library, declared'⟩, []) :=
    ⟨⟨rfl, hnames⟩, rfl⟩
  obtain ⟨⟨s', made'⟩, hcustoms', hscope, hmade⟩ := customs_perm hperm hmarked hstart hcustoms
  obtain rfl : made = made' := hmade
  rw [definitionItems_congr hscope, mapM_eq_ok] at hdefinitions
  obtain ⟨itemss', hdefinitions', hflat⟩ := List.perm_comp_forall₂ hperm.symm hdefinitions
  have hitems : (made ++ itemss.flatten).Perm (made ++ itemss'.flatten) :=
    (hflat.symm.flatten).append_left made
  obtain ⟨hspace, hdocstring, hadded⟩ := Group.addAll_eq_ok_iff.1 (mapError_eq_ok.1 h)
  have hnodup : (made ++ itemss'.flatten).Nodup := hitems.nodup_iff.1 (hadded ▸ g.nodup)
  let g' : Group := ⟨g.space, g.docstring, made ++ itemss'.flatten, hnodup⟩
  have hgroup : groupOf library file' = .ok g' := by
    refine bind_eq_ok.2 ⟨(space, made ++ itemss'.flatten), ?_, ?_⟩
    · refine bind_eq_ok.2 ⟨_, hcollect', bind_eq_ok.2 ⟨_, hcustoms', bind_eq_ok.2 ⟨itemss', ?_, rfl⟩⟩⟩
      exact mapM_eq_ok.2 hdefinitions'
    · exact mapError_eq_ok.2 (Group.addAll_eq_ok_iff.2 ⟨hspace, hdocstring, rfl⟩)
  exact ⟨g', hgroup, rfl, rfl, hadded ▸ hitems⟩

/-- The order of the definitions of a file makes no difference but for the order of the custom
types among them: it is refused in every order, or describes the same group in every order. -/
theorem groupOf_perm (library : String) {file file' : File} (hperm : file.Perm file')
    (hmarked : file.filter Definition.isMarkedCustom = file'.filter Definition.isMarkedCustom) :
    (∃ fault fault', groupOf library file = .error fault ∧ groupOf library file' = .error fault') ∨
      ∃ g g', groupOf library file = .ok g ∧ groupOf library file' = .ok g' ∧
        GroupMap.SameGroup g g' := by
  cases hfile : groupOf library file with
  | ok g =>
    obtain ⟨g', hg', hsame⟩ := groupOf_of_perm hperm hmarked hfile
    exact .inr ⟨g, g', rfl, hg', hsame⟩
  | error fault =>
    cases hfile' : groupOf library file' with
    | error fault' => exact .inl ⟨fault, fault', rfl, rfl⟩
    | ok g' =>
      obtain ⟨g, hg, -⟩ := groupOf_of_perm hperm.symm hmarked.symm hfile'
      rw [hfile] at hg
      cases hg

def anywhere (text : String) : Word := ⟨text, {}⟩

/-- A namespace whose function gives a record, a record with a field of a custom type, and two
custom types, the second of which is built from the first. -/
def pointSpace : Definition :=
  ⟨{}, [], anywhere "one",
    .space [⟨{}, [], some (.named (anywhere "Point")), anywhere "make", []⟩]⟩

def pointRecord : Definition :=
  ⟨{}, [], anywhere "Point", .dictionary [⟨[], .named (anywhere "Ids"), anywhere "ids", none⟩]⟩

def idCustom : Definition :=
  ⟨{}, [⟨anywhere "Custom", none⟩], anywhere "Id", .typedef (.type (.named (anywhere "string")))⟩

def idsCustom : Definition :=
  ⟨{}, [⟨anywhere "Custom", none⟩], anywhere "Ids",
    .typedef (.type (.sequence (.named (anywhere "Id"))))⟩

theorem groupOf_perm_points :
    let file := [pointSpace, pointRecord, idCustom, idsCustom]
    let file' := [idCustom, pointRecord, idsCustom, pointSpace]
    file.Perm file' ∧
      file.filter Definition.isMarkedCustom = file'.filter Definition.isMarkedCustom ∧
      ∃ g g', groupOf "a" file = .ok g ∧ groupOf "a" file' = .ok g' ∧ GroupMap.SameGroup g g' := by
  intro file file'
  have hperm : file.Perm file' := by decide
  have hmarked : file.filter Definition.isMarkedCustom =
      file'.filter Definition.isMarkedCustom := by decide +kernel
  refine ⟨hperm, hmarked, (groupOf_perm "a" hperm hmarked).resolve_left ?_⟩
  rintro ⟨fault, -, hfault, -⟩
  have hgood : (groupOf "a" file).toOption.isSome = true := by decide +kernel
  rw [hfault] at hgood
  cases hgood

/-- The custom types themselves cannot change places. -/
example : (groupOf "a" [pointSpace, pointRecord, idsCustom, idCustom]).toOption = none := by
  decide +kernel

end Bindery.Legacy
