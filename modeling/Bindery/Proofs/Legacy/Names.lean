import Bindery.Legacy.Items
import Bindery.Proofs.Outcome
import Bindery.Proofs.Table
/-!
# The names of a legacy interface file

What each name of a file stands for, once all of them are declared. The table only grows while it
is filled, so what a type expression stands for at one time it stands for ever after.
-/
namespace Bindery.Legacy

open Outcome

/-- The attributes of a definition, unless a literal among them is faulty. -/
def Definition.notes? (d : Definition) : Option Notes := (notesOf d.attributes).toOption

def Definition.isEnumeration (d : Definition) : Bool := d.notes?.any Notes.isEnumeration

def Definition.isTrait (d : Definition) : Bool := d.notes?.any (·.contains "Trait")

def Definition.isError (d : Definition) : Bool := d.notes?.any (·.contains "Error")

def Definition.isExternal (d : Definition) : Bool := d.notes?.any Notes.isExternal

/-- Every definition declares its name, except that a namespace has a scope of its own. -/
def Definition.declares (d : Definition) : Bool :=
  match d.body with
  | .space _ => false
  | _ => true

/-- A typedef of a type of this library's own. -/
def Definition.isCustom (d : Definition) : Bool :=
  match d.body with
  | .typedef _ => !d.isExternal
  | _ => false

theorem Definition.notes?_eq {d : Definition} {notes : Notes}
    (h : notesOf d.attributes = .ok notes) : d.notes? = some notes := by
  rw [notes?, h, toOption_ok]

/-- The names of one table stand for the same in another one. -/
def Extends (declared declared' : Declared) : Prop :=
  ∀ name ty, declared.get? name = some ty → declared'.get? name = some ty

theorem extends_of_entries {declared declared' : Declared} {more : List (String × Ty)}
    (h : declared'.entries = declared.entries ++ more) : Extends declared declared' := by
  intro name ty hget
  rw [Table.get?_eq_some_iff] at hget ⊢
  rw [h]
  exact List.mem_append_left more hget

/-- A type that is known stays what it is while names are added. -/
theorem tyOf_extends {declared declared' : Declared} (h : Extends declared declared')
    {e : TypeExpr} {ty : Ty} (he : tyOf declared e = .ok ty) : tyOf declared' e = .ok ty := by
  induction e generalizing ty with
  | named w =>
    simp only [tyOf] at he ⊢
    split at he
    · exact he
    · split at he
      · rename_i found hget
        obtain rfl := Except.ok.inj he
        simp only [h w.text found hget]
      · cases he
  | sequence inner ih | optional inner ih =>
    obtain ⟨innerTy, hinner, hty⟩ := map_eq_ok.1 he
    exact map_eq_ok.2 ⟨innerTy, ih hinner, hty⟩
  | map key value ihkey ihvalue =>
    obtain ⟨keyTy, hkey, he⟩ := bind_eq_ok.1 he
    obtain ⟨valueTy, hvalue, hty⟩ := bind_eq_ok.1 he
    exact bind_eq_ok.2 ⟨keyTy, ihkey hkey, bind_eq_ok.2 ⟨valueTy, ihvalue hvalue, hty⟩⟩

/-- A name is declared once, and never that of a primitive type. -/
theorem declare_eq_ok_iff {declared declared' : Declared} {name : Word} {ty : Ty} :
    declare declared name ty = .ok declared' ↔
      Primitive.ofSpelling? name.text = none ∧ declared.get? name.text = none ∧
        declared' = declared.insert name.text ty := by
  unfold declare
  rw [Table.contains_eq_isSome]
  cases declared.get? name.text <;> cases Primitive.ofSpelling? name.text <;> simp [eq_comm]

theorem entries_insert {declared : Declared} {name : String} (h : declared.get? name = none)
    (ty : Ty) : (declared.insert name ty).entries = declared.entries ++ [(name, ty)] := by
  refine Table.storeEntry_of_not_mem (fun hmem => ?_) ty
  obtain ⟨found, hfound⟩ := (declared.mem_keys_iff name).1 hmem
  rw [h] at hfound
  cases hfound

theorem filter_cons_eq {α : Type} (p : α → Bool) (x : α) (xs : List α) :
    (x :: xs).filter p = [x].filter p ++ xs.filter p := by
  rw [← List.filter_append]
  rfl

/-- The entry of a definition that declares a type of its own or of another library. -/
structure Enters (library : String) (d : Definition) (entry : String × Ty) : Prop where
  name : entry.1 = d.name.text
  free : Primitive.ofSpelling? d.name.text = none
  ty : ∃ notes, notesOf d.attributes = .ok notes ∧
    declaredTy? library notes d.name d.body = .ok (some entry.2)

/-- The definitions whose names are declared first. -/
def Definition.isFirst (d : Definition) : Bool := d.declares && !d.isCustom

theorem isSome_declaredTy? {library : String} {d : Definition} {notes : Notes} {ty? : Option Ty}
    (hnotes : notesOf d.attributes = .ok notes)
    (h : declaredTy? library notes d.name d.body = .ok ty?) : ty?.isSome = d.isFirst := by
  unfold Definition.isFirst Definition.declares Definition.isCustom Definition.isExternal
  rw [Definition.notes?_eq hnotes]
  cases hbody : d.body with
  | typedef target =>
    simp only [hbody, declaredTy?] at h
    split at h
    · rename_i hexternal
      obtain ⟨ty, -, rfl⟩ := map_eq_ok.1 h
      simp [hexternal]
    · rename_i hown
      obtain rfl := Except.ok.inj h
      simp [hown]
  | space _ | dictionary _ | enumeration _ _ | interface _ | callback _ =>
    rw [hbody] at h
    obtain rfl := Except.ok.inj h
    rfl

/-- What a definition does to the names before custom types are looked at. -/
inductive Collects (library : String) (d : Definition) (names : Names) : Names → Prop where
  | space {functions : List FunctionDecl} (hbody : d.body = .space functions)
      (hfirst : names.space = none) : Collects library d names { names with space := d.name.text }
  | type {entry : String × Ty} (henters : Enters library d entry)
      (hnew : names.declared.get? entry.1 = none) :
      Collects library d names { names with declared := names.declared.insert entry.1 entry.2 }
  | none {notes : Notes} (hnotes : notesOf d.attributes = .ok notes)
      (hdeclares : d.declares = true)
      (hty : declaredTy? library notes d.name d.body = .ok none) : Collects library d names names

theorem collectOne_of_declares {library : String} {names : Names} {d : Definition}
    (h : d.declares = true) :
    collectOne library names d = collectTy library names d := by
  unfold Definition.declares at h
  unfold collectOne
  split at h <;> simp_all

/-- Every definition collects what is said of it, and nothing else. -/
theorem collectOne_eq_ok_iff {library : String} {names names' : Names} {d : Definition} :
    collectOne library names d = .ok names' ↔ Collects library d names names' := by
  constructor
  · intro h
    cases hdeclares : d.declares with
    | false =>
      unfold Definition.declares at hdeclares
      split at hdeclares
      · rename_i functions hbody
        simp only [collectOne, hbody] at h
        split at h
        · cases h
        · obtain rfl := Except.ok.inj h
          exact .space hbody ‹_›
      · cases hdeclares
    | true =>
      rw [collectOne_of_declares hdeclares] at h
      obtain ⟨notes, hnotes, h⟩ := bind_eq_ok.1 h
      obtain ⟨ty?, hty, h⟩ := bind_eq_ok.1 h
      cases ty? with
      | none =>
        obtain rfl := Except.ok.inj h
        exact .none hnotes hdeclares hty
      | some ty =>
        obtain ⟨declared, hdeclared, h⟩ := bind_eq_ok.1 h
        obtain rfl := Except.ok.inj h
        obtain ⟨hfree, hnew, rfl⟩ := declare_eq_ok_iff.1 hdeclared
        have henters : Enters library d (d.name.text, ty) := ⟨rfl, hfree, notes, hnotes, hty⟩
        exact .type henters hnew
  · intro h
    cases h with
    | space hbody hfirst => simp only [collectOne, hbody, hfirst]
    | @type entry henters hnew =>
      obtain ⟨name, ty⟩ := entry
      obtain ⟨rfl, hfree, notes, hnotes, hty⟩ := henters
      have hdeclares : d.declares = true := by
        have := isSome_declaredTy? hnotes hty
        simp_all [Definition.isFirst]
      rw [collectOne_of_declares hdeclares]
      refine bind_eq_ok.2 ⟨notes, hnotes, bind_eq_ok.2 ⟨_, hty, bind_eq_ok.2 ⟨_, ?_, rfl⟩⟩⟩
      exact declare_eq_ok_iff.2 ⟨hfree, hnew, rfl⟩
    | none hnotes hdeclares hty =>
      rw [collectOne_of_declares hdeclares]
      exact bind_eq_ok.2 ⟨_, hnotes, bind_eq_ok.2 ⟨_, hty, rfl⟩⟩

/-- One definition: it enters its name, or leaves the table as it is. -/
theorem Collects.entered {library : String} {names names' : Names} {d : Definition}
    (h : Collects library d names names') :
    ∃ entries, names'.declared.entries = names.declared.entries ++ entries ∧
      List.Forall₂ (Enters library) ([d].filter Definition.isFirst) entries := by
  cases h with
  | space hbody =>
    have hfirst : d.isFirst = false := by simp [Definition.isFirst, Definition.declares, hbody]
    exact ⟨[], by simp, by simp [hfirst]⟩
  | @type entry henters hnew =>
    obtain ⟨notes, hnotes, hty⟩ := henters.ty
    refine ⟨[entry], entries_insert hnew _, ?_⟩
    rw [List.filter_cons_of_pos (isSome_declaredTy? hnotes hty).symm]
    exact .cons henters .nil
  | none hnotes _ hty =>
    have hfirst := isSome_declaredTy? hnotes hty
    exact ⟨[], by simp, by simp [← hfirst]⟩

/-- The definitions that declare a name enter it one after the other. -/
theorem entered_of_collect {library : String} {file : File} {names names' : Names}
    (h : file.foldlM (collectOne library) names = .ok names') :
    ∃ entries, names'.declared.entries = names.declared.entries ++ entries ∧
      List.Forall₂ (Enters library) (file.filter Definition.isFirst) entries := by
  induction file generalizing names with
  | nil =>
    obtain rfl := Except.ok.inj h
    exact ⟨[], by simp, .nil⟩
  | cons d file ih =>
    rw [List.foldlM_cons] at h
    obtain ⟨next, hnext, h⟩ := bind_eq_ok.1 h
    obtain ⟨first, hfirst, henters⟩ := (collectOne_eq_ok_iff.1 hnext).entered
    obtain ⟨rest, hrest, hothers⟩ := ih h
    refine ⟨first ++ rest, by rw [hrest, hfirst, List.append_assoc], ?_⟩
    rw [filter_cons_eq]
    exact List.rel_append henters hothers

/-- The entry of a custom type in the table of names. -/
def customEntry (c : CustomType) : String × Ty := (c.name, .custom c.modulePath c.name c.builtin)

/-- The custom type that a typedef declares, built from the names of a scope. -/
structure MakesCustom (s : Scope) (d : Definition) (c : CustomType) : Prop where
  path : c.modulePath = s.library
  name : c.name = d.name.text
  plain : c.docstring = none
  free : Primitive.ofSpelling? d.name.text = none
  builtin : ∃ e, d.body = .typedef (.type e) ∧ tyOf s.declared e = .ok c.builtin

/-- What a custom type is built from stays known in later scopes. -/
theorem MakesCustom.extends {s s' : Scope} {d : Definition} {c : CustomType}
    (h : MakesCustom s d c) (hlibrary : s'.library = s.library)
    (hextends : Extends s.declared s'.declared) : MakesCustom s' d c := by
  obtain ⟨e, hbody, hty⟩ := h.builtin
  exact ⟨h.path.trans hlibrary.symm, h.name, h.plain, h.free, e, hbody, tyOf_extends hextends hty⟩

/-- What becomes of a scope while custom types are added to it. -/
structure Adds (state state' : Scope × List Item) (customs : List CustomType) : Prop where
  library : state'.1.library = state.1.library
  entries : state'.1.declared.entries = state.1.declared.entries ++ customs.map customEntry
  items : state'.2 = state.2 ++ customs.map .custom

theorem Adds.refl (state : Scope × List Item) : Adds state state [] := ⟨rfl, by simp, by simp⟩

theorem Adds.append {state next state' : Scope × List Item} {customs more : List CustomType}
    (h : Adds state next customs) (h' : Adds next state' more) :
    Adds state state' (customs ++ more) where
  library := h'.library.trans h.library
  entries := by rw [h'.entries, h.entries, List.map_append, List.append_assoc]
  items := by rw [h'.items, h.items, List.map_append, List.append_assoc]

theorem added_of_customItem {s s' : Scope} {d : Definition} {target : TypedefTarget} {item : Item}
    (hbody : d.body = .typedef target) (h : customItem s d.name target = .ok (s', item)) :
    ∃ c, MakesCustom s d c ∧ item = .custom c ∧ s'.library = s.library ∧
      s'.declared.entries = s.declared.entries ++ [customEntry c] := by
  cases target with
  | foreign => cases h
  | type e =>
    obtain ⟨builtin, hbuiltin, h⟩ := bind_eq_ok.1 h
    obtain ⟨declared, hdeclared, h⟩ := bind_eq_ok.1 h
    obtain ⟨rfl, rfl⟩ := Prod.mk.inj (Except.ok.inj h)
    obtain ⟨hfree, hnew, rfl⟩ := declare_eq_ok_iff.1 hdeclared
    exact ⟨_, ⟨rfl, rfl, rfl, hfree, e, hbody, hbuiltin⟩, rfl, rfl, entries_insert hnew _⟩

/-- What a definition does while custom types are looked at. -/
inductive Customizes (d : Definition) (state : Scope × List Item) : Scope × List Item → Prop where
  | custom {notes : Notes} {target : TypedefTarget} {scope : Scope} {item : Item}
      (hbody : d.body = .typedef target) (hnotes : notesOf d.attributes = .ok notes)
      (hown : notes.isExternal = false) (hmarked : notes.contains "Custom" = true)
      (hitem : customItem state.1 d.name target = .ok (scope, item)) :
      Customizes d state (scope, state.2 ++ [item])
  | external {notes : Notes} {target : TypedefTarget} (hbody : d.body = .typedef target)
      (hnotes : notesOf d.attributes = .ok notes) (hexternal : notes.isExternal = true) :
      Customizes d state state
  | other (hbody : ∀ target, d.body ≠ .typedef target) : Customizes d state state

theorem collectCustom_eq_ok_iff {state next : Scope × List Item} {d : Definition} :
    collectCustom state d = .ok next ↔ Customizes d state next := by
  constructor
  · intro h
    cases hbody : d.body with
    | typedef target =>
      simp only [collectCustom, hbody] at h
      obtain ⟨notes, hnotes, h⟩ := bind_eq_ok.1 h
      split at h
      · obtain rfl := Except.ok.inj h
        exact .external hbody hnotes ‹_›
      · rename_i hown
        split at h
        · obtain ⟨⟨scope, item⟩, hitem, h⟩ := bind_eq_ok.1 h
          obtain rfl := Except.ok.inj h
          exact .custom hbody hnotes (Bool.eq_false_of_not_eq_true hown) ‹_› hitem
        · cases h
    | space _ | dictionary _ | enumeration _ _ | interface _ | callback _ =>
      simp only [collectCustom, hbody] at h
      obtain rfl := Except.ok.inj h
      exact .other (by simp [hbody])
  · intro h
    cases h with
    | custom hbody hnotes hown hmarked hitem =>
      simp only [collectCustom, hbody, hnotes, ok_bind, hown, hmarked, hitem]
      rfl
    | external hbody hnotes hexternal =>
      simp only [collectCustom, hbody, hnotes, ok_bind, hexternal]
      rfl
    | other hbody =>
      unfold collectCustom
      split
      · exact absurd ‹_› (hbody _)
      · rfl

/-- One definition: it adds a custom type, or leaves the scope as it is. -/
theorem Customizes.added {state state' : Scope × List Item} {d : Definition}
    (h : Customizes d state state') :
    ∃ customs, Adds state state' customs ∧
      List.Forall₂ (MakesCustom state.1) ([d].filter Definition.isCustom) customs := by
  have hcustom : ∀ notes target, d.body = .typedef target → notesOf d.attributes = .ok notes →
      d.isCustom = !notes.isExternal := by
    intro notes target hbody hnotes
    simp [Definition.isCustom, Definition.isExternal, hbody, Definition.notes?_eq hnotes]
  cases h with
  | custom hbody hnotes hown _ hitem =>
    obtain ⟨c, hmakes, rfl, hlibrary, hentries⟩ := added_of_customItem hbody hitem
    refine ⟨[c], ⟨hlibrary, hentries, rfl⟩, ?_⟩
    rw [List.filter_cons_of_pos (by simp [hcustom _ _ hbody hnotes, hown])]
    exact .cons hmakes .nil
  | external hbody hnotes hexternal =>
    exact ⟨[], .refl _, by simp [hcustom _ _ hbody hnotes, hexternal]⟩
  | other hbody =>
    have hother : d.isCustom = false := by
      unfold Definition.isCustom
      split
      · exact absurd ‹_› (hbody _)
      · rfl
    exact ⟨[], .refl _, by simp [hother]⟩

/-- Custom types are added one after the other. What each was built from is still in the last
scope. -/
theorem added_of_customs {file : File} {state state' : Scope × List Item}
    (h : file.foldlM collectCustom state = .ok state') :
    ∃ customs, Adds state state' customs ∧
      List.Forall₂ (MakesCustom state'.1) (file.filter Definition.isCustom) customs := by
  induction file generalizing state with
  | nil =>
    obtain rfl := Except.ok.inj h
    exact ⟨[], .refl _, .nil⟩
  | cons d file ih =>
    rw [List.foldlM_cons] at h
    obtain ⟨next, hnext, h⟩ := bind_eq_ok.1 h
    obtain ⟨first, hfirst, hmakes⟩ := (collectCustom_eq_ok_iff.1 hnext).added
    obtain ⟨rest, hrest, hothers⟩ := ih h
    have hall := hfirst.append hrest
    refine ⟨first ++ rest, hall, ?_⟩
    rw [filter_cons_eq]
    refine List.rel_append (hmakes.imp fun _ _ hc => ?_) hothers
    exact hc.extends hall.library (extends_of_entries hall.entries)

/-- The names of a file, its custom types among them. -/
def scopeOf (library : String) (file : File) : Except Fault Scope := do
  let (_, declared) ← collect library file
  let (scope, _) ← file.foldlM collectCustom (⟨library, declared⟩, [])
  pure scope

/-- A scope holds what the names of a file stand for: first those of types that are declared by
themselves, then the custom types in the order of the file. -/
structure Scope.NamesOf (s : Scope) (file : File) (customs : List CustomType) : Prop where
  entries : ∃ firsts, s.declared.entries = firsts ++ customs.map customEntry ∧
    List.Forall₂ (Enters s.library) (file.filter Definition.isFirst) firsts
  customs : List.Forall₂ (MakesCustom s) (file.filter Definition.isCustom) customs

/-- The items of a file are its custom types, and then what its definitions give one by one. -/
theorem settled_of_itemsOf {library space : String} {file : File} {items : List Item}
    (h : itemsOf library file = .ok (space, items)) :
    ∃ s customs itemss, scopeOf library file = .ok s ∧ s.library = library ∧
      s.NamesOf file customs ∧
      List.Forall₂ (fun d items => definitionItems s d = .ok items) file itemss ∧
      items = customs.map .custom ++ itemss.flatten := by
  obtain ⟨⟨space', declared⟩, hcollect, h⟩ := bind_eq_ok.1 h
  obtain ⟨⟨s, made⟩, hcustoms, h⟩ := bind_eq_ok.1 h
  obtain ⟨itemss, hitems, h⟩ := bind_eq_ok.1 h
  obtain ⟨rfl, rfl⟩ := Prod.mk.inj (Except.ok.inj h)
  obtain ⟨names, hnames, hspace⟩ := bind_eq_ok.1 hcollect
  obtain ⟨firsts, hfirsts, henters⟩ := entered_of_collect hnames
  obtain ⟨customs, hadds, hmakes⟩ := added_of_customs hcustoms
  have hdeclared : declared = names.declared := by
    split at hspace
    · cases hspace
    · exact (Prod.mk.inj (Except.ok.inj hspace)).2.symm
  have hscope : scopeOf library file = .ok s := by
    rw [scopeOf, hcollect, ok_bind]
    simp only [hcustoms]
    rfl
  have hlibrary : s.library = library := hadds.library
  refine ⟨s, customs, itemss, hscope, hlibrary, ⟨⟨firsts, ?_, hlibrary ▸ henters⟩, hmakes⟩,
    mapM_eq_ok.1 hitems, ?_⟩
  · simpa [hdeclared, hfirsts, Table.empty] using hadds.entries
  · simpa using congrArg (· ++ itemss.flatten) hadds.items

end Bindery.Legacy
