import Bindery.Proofs.Group.Basic
import Bindery.Proofs.Legacy.Faults
import Bindery.Proofs.Legacy.Names
/-!
# The translation of legacy interface files

What a file declares, and which item each declaration gives. Every definition and every callable
gives one item, in order, with one exception: an interface that stands for an enumeration holds
variants only, and its constructors and functions are lost without a word. An interface that stands
for an object does not accept a variant.
-/
namespace Bindery.Legacy

open Outcome

/-- Something that a file declares: a type, or a callable in a definition. The place of a function
is counted among the functions of its definition. -/
inductive Entry where
  | type (d : Definition)
  | constructor (d : Definition) (c : ConstructorDecl)
  | function (d : Definition) (place : Nat) (f : FunctionDecl)

/-- The functions of a definition with their places, from a first place on. -/
def functionsFrom (d : Definition) : (place : Nat) → List FunctionDecl → List Entry
  | _, [] => []
  | place, f :: rest => .function d place f :: functionsFrom d (place + 1) rest

/-- The callables of a definition: constructors first, then functions. -/
def Definition.callables (d : Definition) : List Entry :=
  match d.body with
  | .space functions | .callback functions => functionsFrom d 0 functions
  | .interface members =>
    (members.filterMap MemberDecl.constructor?).map (.constructor d) ++
      functionsFrom d 0 (members.filterMap MemberDecl.function?)
  | .dictionary _ | .enumeration _ _ | .typedef _ => []

/-- What a definition declares. Custom types are left out, for they come before all others. -/
def Definition.entries (d : Definition) : List Entry :=
  match d.body with
  | .space _ | .typedef _ => d.callables
  | .dictionary _ | .enumeration _ _ | .interface _ | .callback _ => .type d :: d.callables

/-- All that a file declares: its custom types first, then the rest in the order of the file. -/
def File.entries (file : File) : List Entry :=
  (file.filter Definition.isCustom).map .type ++ file.flatMap Definition.entries

/-- A member that an interface has a use for: variants belong to enumerations, constructors and
functions to objects. -/
def Definition.canHold (d : Definition) : MemberDecl → Bool
  | .variant _ => d.isEnumeration
  | .constructor _ | .function _ => !d.isEnumeration

/-- An interface that stands for an enumeration, which has no callables. -/
def Definition.losesCallables (d : Definition) : Bool :=
  match d.body with
  | .interface _ => d.isEnumeration
  | _ => false

def Entry.isStray : Entry → Bool
  | .type _ => false
  | .constructor d _ | .function d _ _ => d.losesCallables

/-- The entries that are not lost. -/
def heldEntries (entries : List Entry) : List Entry := entries.filter fun e => !e.isStray

/-- The name that a constructor is called by. -/
def ConstructorDecl.callName (c : ConstructorDecl) : String :=
  ((notesOf c.attributes).toOption.bind fun notes => filled? ((notes.get? "Name").getD none)).getD
    "new"

def Definition.holdsTraitMethods (d : Definition) : Bool :=
  match d.body with
  | .interface _ => d.isTrait
  | .callback _ => true
  | _ => false

/-- A field of a dictionary gives a field with its name, its type and its default. -/
structure GivesField (s : Scope) (f : FieldDecl) (field : Field) : Prop where
  name : field.name = f.name.text
  ty : tyOf s.declared f.type = .ok field.ty
  default : defaultText f.default = .ok field.default
  plain : field.docstring = none

/-- A parameter of a variant gives a field with its name and its type. -/
structure GivesParam (s : Scope) (p : ParamDecl) (field : Field) : Prop where
  name : field.name = p.name.text
  ty : tyOf s.declared p.type = .ok field.ty
  default : field.default = none
  plain : field.docstring = none

/-- A string value of an enumeration gives a variant without fields. -/
structure GivesValue (l : Literal) (v : Variant) : Prop where
  name : decodeLiteral l = .ok v.name
  fields : v.fields = []
  plain : v.docstring = none

structure GivesVariant (s : Scope) (d : VariantDecl) (v : Variant) : Prop where
  name : v.name = d.name.text
  fields : List.Forall₂ (GivesParam s) d.params v.fields
  plain : v.docstring = none

/-- The item that a declaration gives. Its fields and variants are those of the definition, in the
order of the file, and a trait method is numbered by its place. -/
inductive Gives (s : Scope) : Entry → Item → Prop where
  | record {d : Definition} {decls : List FieldDecl} {fields : List Field}
      (hbody : d.body = .dictionary decls) (hfields : List.Forall₂ (GivesField s) decls fields) :
      Gives s (.type d) (.record ⟨s.library, d.name.text, fields, none⟩)
  | enumeration {d : Definition} {values : List Literal} {comma : Bool} {variants : List Variant}
      (hbody : d.body = .enumeration values comma)
      (hvariants : List.Forall₂ GivesValue values variants) :
      Gives s (.type d) (.enumeration ⟨s.library, d.name.text, variants, d.isError, none⟩)
  | variants {d : Definition} {members : List MemberDecl} {variants : List Variant}
      (hbody : d.body = .interface members) (hkind : d.isEnumeration = true)
      (hvariants : List.Forall₂ (GivesVariant s) (members.filterMap MemberDecl.variant?) variants) :
      Gives s (.type d) (.enumeration ⟨s.library, d.name.text, variants, d.isError, none⟩)
  | object {d : Definition} {members : List MemberDecl} (hbody : d.body = .interface members)
      (hkind : d.isEnumeration = false) :
      Gives s (.type d) (.object ⟨s.library, d.name.text, d.isTrait, none⟩)
  | callback {d : Definition} {functions : List FunctionDecl}
      (hbody : d.body = .callback functions) :
      Gives s (.type d) (.callback ⟨s.library, d.name.text, none⟩)
  | custom {d : Definition} {e : TypeExpr} {builtin : Ty} (hbody : d.body = .typedef (.type e))
      (hty : tyOf s.declared e = .ok builtin) :
      Gives s (.type d) (.custom ⟨s.library, d.name.text, builtin, none⟩)
  | constructor {d : Definition} {members : List MemberDecl} {c : ConstructorDecl}
      {inputs : List Param} {throws : Option Ty} (hbody : d.body = .interface members)
      (hkind : d.isEnumeration = false) (hinputs : paramsOf s c.params = .ok inputs)
      (hthrows : throwsOf s c.attributes c.mark = .ok throws) :
      Gives s (.constructor d c)
        (.constructor ⟨s.library, d.name.text, c.callName, inputs, none, throws, none⟩)
  | function {d : Definition} {functions : List FunctionDecl} {place : Nat} {f : FunctionDecl}
      {g : Signature} (hbody : d.body = .space functions) (hsignature : signatureOf s f = .ok g) :
      Gives s (.function d place f)
        (.function ⟨s.library, f.name.text, g.inputs, g.returns, g.throws, g.isAsync, none⟩)
  | method {d : Definition} {members : List MemberDecl} {place : Nat} {f : FunctionDecl}
      {g : Signature} (hbody : d.body = .interface members) (hkind : d.isEnumeration = false)
      (htrait : d.isTrait = false) (hsignature : signatureOf s f = .ok g) :
      Gives s (.function d place f) (.method ⟨s.library, d.name.text, f.name.text, g.inputs,
        g.returns, g.throws, g.isAsync, none⟩)
  | traitMethod {d : Definition} {place : Nat} {f : FunctionDecl} {g : Signature}
      (htrait : d.holdsTraitMethods = true) (hsignature : signatureOf s f = .ok g) :
      Gives s (.function d place f) (.traitMethod ⟨s.library, d.name.text, place, f.name.text,
        g.inputs, g.returns, g.throws, g.isAsync, none⟩)

variable {s : Scope} {d : Definition}

/-- A field is told by its declaration. -/
theorem givesField_unique : Relator.RightUnique (GivesField s) := by
  rintro f ⟨_, _, _, _⟩ ⟨_, _, _, _⟩ ⟨rfl, hty, hdefault, rfl⟩ ⟨rfl, hty', hdefault', rfl⟩
  cases Except.ok.inj (hty.symm.trans hty')
  cases Except.ok.inj (hdefault.symm.trans hdefault')
  rfl

theorem givesParam_unique : Relator.RightUnique (GivesParam s) := by
  rintro p ⟨_, _, _, _⟩ ⟨_, _, _, _⟩ ⟨rfl, hty, rfl, rfl⟩ ⟨rfl, hty', rfl, rfl⟩
  cases Except.ok.inj (hty.symm.trans hty')
  rfl

theorem givesValue_unique : Relator.RightUnique GivesValue := by
  rintro l ⟨_, _, _⟩ ⟨_, _, _⟩ ⟨hname, rfl, rfl⟩ ⟨hname', rfl, rfl⟩
  cases Except.ok.inj (hname.symm.trans hname')
  rfl

/-- A variant is told by its declaration. -/
theorem givesVariant_unique : Relator.RightUnique (GivesVariant s) := by
  rintro v ⟨_, _, _⟩ ⟨_, _, _⟩ ⟨rfl, hfields, rfl⟩ ⟨rfl, hfields', rfl⟩
  cases givesParam_unique.forall₂ hfields hfields'
  rfl

/-- A declaration gives no two items. -/
theorem gives_unique : Relator.RightUnique (Gives s) := by
  intro e a b ha hb
  cases ha with
  | record hbody hfields =>
    cases hb with
    | record hbody' hfields' =>
      cases hbody.symm.trans hbody'
      rw [givesField_unique.forall₂ hfields hfields']
    | _ => simp_all
  | enumeration hbody hvariants =>
    cases hb with
    | enumeration hbody' hvariants' =>
      cases hbody.symm.trans hbody'
      rw [givesValue_unique.forall₂ hvariants hvariants']
    | _ => simp_all
  | variants hbody hkind hvariants =>
    cases hb with
    | variants hbody' _ hvariants' =>
      cases hbody.symm.trans hbody'
      rw [givesVariant_unique.forall₂ hvariants hvariants']
    | _ => simp_all
  | object hbody hkind | callback hbody => cases hb <;> simp_all
  | custom hbody hty =>
    cases hb with
    | custom hbody' hty' =>
      cases hbody.symm.trans hbody'
      rw [Except.ok.inj (hty.symm.trans hty')]
    | _ => simp_all
  | constructor hbody hkind hinputs hthrows =>
    cases hb with
    | constructor _ _ hinputs' hthrows' =>
      rw [Except.ok.inj (hinputs.symm.trans hinputs'), Except.ok.inj (hthrows.symm.trans hthrows')]
  | function hbody hsignature => cases hb <;> simp_all [Definition.holdsTraitMethods]
  | method hbody hkind htrait hsignature =>
    cases hb <;> simp_all [Definition.holdsTraitMethods]
  | traitMethod htrait hsignature => cases hb <;> simp_all [Definition.holdsTraitMethods]

/-- A field that is made is what its declaration gives. -/
theorem givesField_of_fieldOf {f : FieldDecl} {field : Field} (h : fieldOf s f = .ok field) :
    GivesField s f field := by
  obtain ⟨default, hdefault, h⟩ := bind_eq_ok.1 h
  obtain ⟨ty, hty, h⟩ := bind_eq_ok.1 h
  obtain rfl := Except.ok.inj h
  exact ⟨rfl, hty, hdefault, rfl⟩

theorem givesValue_of_valueOf {l : Literal} {v : Variant} (h : valueOf l = .ok v) :
    GivesValue l v := by
  obtain ⟨name, hname, rfl⟩ := map_eq_ok.1 h
  exact ⟨hname, rfl, rfl⟩

theorem givesVariant_of_variantOf {decl : VariantDecl} {v : Variant}
    (h : variantOf s decl = .ok v) : GivesVariant s decl v := by
  obtain ⟨params, hparams, rfl⟩ := map_eq_ok.1 h
  refine ⟨rfl, List.forall₂_map_right_iff.2 ((mapM_eq_ok.1 hparams).imp ?_), rfl⟩
  intro p param hparam
  obtain ⟨ty, hty, rfl⟩ := map_eq_ok.1 hparam
  exact ⟨rfl, hty, rfl, rfl⟩

/-- A constructor that is made is what its declaration gives. -/
theorem gives_of_constructorItem {members : List MemberDecl} (hbody : d.body = .interface members)
    (hkind : d.isEnumeration = false) {c : ConstructorDecl} {item : Item}
    (h : constructorItem s d.name.text c = .ok item) : Gives s (.constructor d c) item := by
  obtain ⟨notes, hnotes, h⟩ := bind_eq_ok.1 h
  obtain ⟨inputs, hinputs, h⟩ := bind_eq_ok.1 h
  obtain ⟨throws, hthrows, h⟩ := bind_eq_ok.1 h
  obtain rfl := Except.ok.inj h
  have hname : c.callName = (filled? ((notes.get? "Name").getD none)).getD "new" := by
    simp [ConstructorDecl.callName, hnotes]
  rw [← hname]
  exact .constructor hbody hkind hinputs hthrows

/-- Functions that each give an item by themselves, wherever they stand. -/
theorem gives_of_mapM {build : FunctionDecl → Except Fault Item} {functions : List FunctionDecl}
    {items : List Item} (hbuild : ∀ place f item, build f = .ok item →
      Gives s (.function d place f) item)
    (h : functions.mapM build = .ok items) (place : Nat) :
    List.Forall₂ (Gives s) (functionsFrom d place functions) items := by
  rw [mapM_eq_ok] at h
  induction h generalizing place with
  | nil => exact .nil
  | cons hf _ ih => exact .cons (hbuild place _ _ hf) (ih (place + 1))

theorem gives_of_functionItem {functions : List FunctionDecl} (hbody : d.body = .space functions)
    (place : Nat) (f : FunctionDecl) (item : Item) (h : functionItem s f = .ok item) :
    Gives s (.function d place f) item := by
  obtain ⟨g, hsignature, h⟩ := bind_eq_ok.1 h
  obtain rfl := Except.ok.inj h
  exact .function hbody hsignature

/-- A method that is made is what its declaration gives. -/
theorem gives_of_methodItem {members : List MemberDecl} (hbody : d.body = .interface members)
    (hkind : d.isEnumeration = false) (htrait : d.isTrait = false) (place : Nat)
    (f : FunctionDecl) (item : Item) (h : methodItem s d.name.text f = .ok item) :
    Gives s (.function d place f) item := by
  obtain ⟨g, hsignature, h⟩ := bind_eq_ok.1 h
  obtain rfl := Except.ok.inj h
  exact .method hbody hkind htrait hsignature

/-- The trait methods that are made are what their declarations give, each with its place as
index. -/
theorem gives_of_traitMethodItems (htrait : d.holdsTraitMethods = true)
    {functions : List FunctionDecl} {place : Nat} {items : List Item}
    (h : traitMethodItems s d.name.text place functions = .ok items) :
    List.Forall₂ (Gives s) (functionsFrom d place functions) items := by
  induction functions generalizing place items with
  | nil =>
    obtain rfl := Except.ok.inj h
    exact .nil
  | cons f functions ih =>
    obtain ⟨g, hsignature, h⟩ := bind_eq_ok.1 h
    obtain ⟨rest, hrest, h⟩ := bind_eq_ok.1 h
    obtain rfl := Except.ok.inj h
    exact .cons (.traitMethod htrait hsignature) (ih hrest)

theorem mem_functionsFrom {e : Entry} {place : Nat} {functions : List FunctionDecl}
    (h : e ∈ functionsFrom d place functions) : ∃ place f, e = .function d place f := by
  induction functions generalizing place with
  | nil => cases h
  | cons f functions ih =>
    rcases List.mem_cons.1 h with rfl | h
    · exact ⟨place, f, rfl⟩
    · exact ih h

theorem mem_callables {e : Entry} (h : e ∈ d.callables) :
    (∃ c, e = .constructor d c) ∨ ∃ place f, e = .function d place f := by
  unfold Definition.callables at h
  split at h
  · exact .inr (mem_functionsFrom h)
  · exact .inr (mem_functionsFrom h)
  · rcases List.mem_append.1 h with h | h
    · obtain ⟨c, -, rfl⟩ := List.mem_map.1 h
      exact .inl ⟨c, rfl⟩
    · exact .inr (mem_functionsFrom h)
  all_goals cases h

theorem isStray_of_mem_callables {e : Entry} (h : e ∈ d.callables) :
    e.isStray = d.losesCallables := by
  rcases mem_callables h with ⟨c, rfl⟩ | ⟨place, f, rfl⟩ <;> rfl

@[simp] theorem heldEntries_type_cons (d : Definition) (entries : List Entry) :
    heldEntries (.type d :: entries) = .type d :: heldEntries entries := rfl

/-- The callables of a definition are held together or lost together. -/
theorem heldEntries_callables_of_lost (h : d.losesCallables = true) :
    heldEntries d.callables = [] := by
  refine List.filter_eq_nil_iff.2 fun e he => ?_
  simp [isStray_of_mem_callables he, h]

theorem heldEntries_callables (h : d.losesCallables = false) :
    heldEntries d.callables = d.callables := by
  refine List.filter_eq_self.2 fun e he => ?_
  simp [isStray_of_mem_callables he, h]

theorem heldEntries_entries (h : d.losesCallables = false) : heldEntries d.entries = d.entries := by
  unfold Definition.entries
  split
  · exact heldEntries_callables h
  · exact heldEntries_callables h
  all_goals rw [heldEntries_type_cons, heldEntries_callables h]

/-- An interface whose items are found stands for an enumeration, which is its variants, or for an
object, which has no variants. -/
theorem interfaceItems_eq_ok {members : List MemberDecl} {notes : Notes} {items : List Item}
    (h : interfaceItems s notes d members = .ok items) :
    (notes.isEnumeration = true ∧ ∃ variants,
      (members.filterMap MemberDecl.variant?).mapM (variantOf s) = .ok variants ∧
      items = [.enumeration ⟨s.library, d.name.text, variants, notes.contains "Error", none⟩]) ∨
    (notes.isEnumeration = false ∧ members.filterMap MemberDecl.variant? = [] ∧
      ∃ constructors methods,
        (members.filterMap MemberDecl.constructor?).mapM (constructorItem s d.name.text) =
          .ok constructors ∧
        (if notes.contains "Trait" then
          traitMethodItems s d.name.text 0 (members.filterMap MemberDecl.function?)
        else (members.filterMap MemberDecl.function?).mapM (methodItem s d.name.text)) =
          .ok methods ∧
        items = .object ⟨s.library, d.name.text, notes.contains "Trait", none⟩ ::
          constructors ++ methods) := by
  simp only [interfaceItems] at h
  split at h
  · rename_i henum
    obtain ⟨variants, hvariants, h⟩ := bind_eq_ok.1 h
    exact .inl ⟨henum, variants, hvariants, (Except.ok.inj h).symm⟩
  · rename_i hobject
    split at h
    · cases h
    rename_i hnone
    obtain ⟨constructors, hconstructors, h⟩ := bind_eq_ok.1 h
    refine .inr ⟨eq_false_of_ne_true hobject, not_not.1 hnone, constructors, ?_⟩
    split at h
    all_goals
      rename_i htrait
      obtain ⟨methods, hmethods, h⟩ := bind_eq_ok.1 h
      refine ⟨methods, hconstructors, ?_, (Except.ok.inj h).symm⟩
    · rwa [if_pos htrait]
    · rwa [if_neg htrait]

/-- The functions of an object, which are read as a trait's methods or as methods of its own. -/
theorem gives_of_objectFunctions {members : List MemberDecl} (hbody : d.body = .interface members)
    (hkind : d.isEnumeration = false) {functions : List FunctionDecl} {methods : List Item}
    (h : (if d.isTrait then traitMethodItems s d.name.text 0 functions
      else functions.mapM (methodItem s d.name.text)) = .ok methods) :
    List.Forall₂ (Gives s) (functionsFrom d 0 functions) methods := by
  split at h
  · rename_i htrait
    refine gives_of_traitMethodItems ?_ h
    simp [Definition.holdsTraitMethods, hbody, htrait]
  · rename_i hown
    have htrait : d.isTrait = false := eq_false_of_ne_true hown
    exact gives_of_mapM (gives_of_methodItem hbody hkind htrait) h 0

/-- The items of an interface are what its entries give, but for those that are lost. -/
theorem gives_of_interfaceItems {members : List MemberDecl} {notes : Notes} {items : List Item}
    (hbody : d.body = .interface members) (hnotes : d.notes? = some notes)
    (h : interfaceItems s notes d members = .ok items) :
    List.Forall₂ (Gives s) (.type d :: heldEntries d.callables) items := by
  have hkind : d.isEnumeration = notes.isEnumeration := by simp [Definition.isEnumeration, hnotes]
  have herror : d.isError = notes.contains "Error" := by simp [Definition.isError, hnotes]
  have htrait : d.isTrait = notes.contains "Trait" := by simp [Definition.isTrait, hnotes]
  have hloses : d.losesCallables = d.isEnumeration := by simp [Definition.losesCallables, hbody]
  rcases interfaceItems_eq_ok h with ⟨henum, variants, hvariants, rfl⟩ |
    ⟨hobject, -, constructors, methods, hconstructors, hmethods, rfl⟩
  · have henum := hkind.trans henum
    have hgives := (mapM_eq_ok.1 hvariants).imp fun _ _ => givesVariant_of_variantOf
    rw [heldEntries_callables_of_lost (hloses.trans henum), ← herror]
    exact .cons (.variants hbody henum hgives) .nil
  · have hobject := hkind.trans hobject
    have hfirst : List.Forall₂ (Gives s)
        ((members.filterMap MemberDecl.constructor?).map (.constructor d)) constructors :=
      List.forall₂_map_left_iff.2
        ((mapM_eq_ok.1 hconstructors).imp fun _ _ => gives_of_constructorItem hbody hobject)
    rw [← htrait] at hmethods ⊢
    have hothers := gives_of_objectFunctions hbody hobject hmethods
    have hcallables : heldEntries d.callables =
        (members.filterMap MemberDecl.constructor?).map (.constructor d) ++
          functionsFrom d 0 (members.filterMap MemberDecl.function?) := by
      rw [heldEntries_callables (hloses.trans hobject), Definition.callables, hbody]
    rw [hcallables]
    exact .cons (.object hbody hobject) (List.rel_append hfirst hothers)

/-- The items of a definition are what its entries give, but for those that are lost. -/
theorem gives_of_definitionItems {items : List Item} (h : definitionItems s d = .ok items) :
    List.Forall₂ (Gives s) (heldEntries d.entries) items := by
  obtain ⟨notes, hnotes, h⟩ := bind_eq_ok.1 h
  have hnotes := Definition.notes?_eq hnotes
  cases hbody : d.body with
  | space functions =>
    rw [heldEntries_entries (by simp [Definition.losesCallables, hbody])]
    simp only [Definition.entries, Definition.callables, hbody] at h ⊢
    exact gives_of_mapM (gives_of_functionItem hbody) h 0
  | dictionary decls =>
    rw [heldEntries_entries (by simp [Definition.losesCallables, hbody])]
    simp only [Definition.entries, Definition.callables, hbody] at h ⊢
    obtain ⟨fields, hfields, h⟩ := bind_eq_ok.1 h
    obtain rfl := Except.ok.inj h
    exact .cons (.record hbody ((mapM_eq_ok.1 hfields).imp fun _ _ => givesField_of_fieldOf)) .nil
  | enumeration values comma =>
    rw [heldEntries_entries (by simp [Definition.losesCallables, hbody])]
    simp only [Definition.entries, Definition.callables, hbody] at h ⊢
    obtain ⟨variants, hvariants, h⟩ := bind_eq_ok.1 h
    obtain rfl := Except.ok.inj h
    have herror : notes.contains "Error" = d.isError := by simp [Definition.isError, hnotes]
    rw [herror]
    exact .cons (.enumeration hbody
      ((mapM_eq_ok.1 hvariants).imp fun _ _ => givesValue_of_valueOf)) .nil
  | interface members =>
    have hentries : d.entries = .type d :: d.callables := by rw [Definition.entries, hbody]
    simp only [hbody] at h
    rw [hentries, heldEntries_type_cons]
    exact gives_of_interfaceItems hbody hnotes h
  | callback functions =>
    rw [heldEntries_entries (by simp [Definition.losesCallables, hbody])]
    simp only [Definition.entries, Definition.callables, hbody] at h ⊢
    obtain ⟨methods, hmethods, h⟩ := bind_eq_ok.1 h
    obtain rfl := Except.ok.inj h
    have htrait : d.holdsTraitMethods = true := by simp [Definition.holdsTraitMethods, hbody]
    exact .cons (.callback hbody) (gives_of_traitMethodItems htrait hmethods)
  | typedef target =>
    rw [heldEntries_entries (by simp [Definition.losesCallables, hbody])]
    simp only [Definition.entries, Definition.callables, hbody] at h ⊢
    obtain rfl := Except.ok.inj h
    exact .nil

/-- An interface with a variant stands for an enumeration, or is refused. -/
theorem isEnumeration_of_definitionItems {items : List Item} (h : definitionItems s d = .ok items)
    {members : List MemberDecl} (hbody : d.body = .interface members) {v : VariantDecl}
    (hv : .variant v ∈ members) : d.isEnumeration = true := by
  obtain ⟨notes, hnotes, h⟩ := bind_eq_ok.1 h
  have hkind : d.isEnumeration = notes.isEnumeration := by
    simp [Definition.isEnumeration, Definition.notes?_eq hnotes]
  rw [hbody] at h
  rcases interfaceItems_eq_ok h with ⟨henum, -⟩ | ⟨-, hnone, -⟩
  · exact hkind.trans henum
  · have hmem : v ∈ members.filterMap MemberDecl.variant? := List.mem_filterMap.2 ⟨_, hv, rfl⟩
    rw [hnone] at hmem
    cases hmem

theorem MakesCustom.gives {c : CustomType} (h : MakesCustom s d c) :
    Gives s (.type d) (.custom c) := by
  obtain ⟨path, name, builtin, docstring⟩ := c
  obtain ⟨rfl, rfl, rfl, -, e, hbody, hty⟩ := h
  exact .custom hbody hty

theorem heldEntries_file (file : File) : heldEntries file.entries =
    (file.filter Definition.isCustom).map .type ++
      file.flatMap fun d => heldEntries d.entries := by
  simp [File.entries, heldEntries, List.filter_flatMap, List.filter_map, Function.comp_def,
    Entry.isStray]

/-- What a file is read as: the scope of its names, and an item for each entry that is held. -/
structure Translates (library : String) (file : File) (s : Scope) (g : Group) : Prop where
  scope : scopeOf library file = .ok s
  inScope : s.library = library
  inGroup : g.library = library
  names : ∃ customs, s.NamesOf file customs
  items : List.Forall₂ (Gives s) (heldEntries file.entries) g.items
  variants : ∀ d ∈ file, ∀ members, d.body = .interface members → ∀ v, .variant v ∈ members →
    d.isEnumeration = true

/-- The group of a file is its translation. -/
theorem translates_of_groupOf {library : String} {file : File} {g : Group}
    (h : groupOf library file = .ok g) : ∃ s, Translates library file s g := by
  obtain ⟨⟨space, items⟩, hitems, h⟩ := bind_eq_ok.1 h
  obtain ⟨hspace, -, hadded⟩ := Group.addAll_eq_ok_iff.1 (mapError_eq_ok.1 h)
  obtain ⟨s, customs, itemss, hscope, hlibrary, hnames, hsteps, rfl⟩ := settled_of_itemsOf hitems
  have hcustoms : List.Forall₂ (Gives s) ((file.filter Definition.isCustom).map .type)
      (customs.map .custom) := by
    rw [List.forall₂_map_left_iff, List.forall₂_map_right_iff]
    exact hnames.customs.imp fun _ _ => MakesCustom.gives
  have hothers : List.Forall₂ (Gives s) (file.flatMap fun d => heldEntries d.entries)
      itemss.flatten :=
    List.rel_flatten (List.forall₂_map_left_iff.2 (hsteps.imp fun _ _ => gives_of_definitionItems))
  refine ⟨s, hscope, hlibrary, ?_, ⟨customs, hnames⟩, ?_, fun d hd members hbody v hv => ?_⟩
  · rw [Group.library, hspace]
    rfl
  · rw [hadded, heldEntries_file]
    exact List.rel_append hcustoms hothers
  · obtain ⟨items, -, hd⟩ := exists_right hsteps hd
    exact isEnumeration_of_definitionItems hd hbody hv

/-- The group that is read from a text is the translation of its file. -/
theorem translates_of_read {library : String} {text : List Char} {g : Group}
    (h : read library text = .ok g) :
    ∃ file s, parseFile text = .ok file ∧ Translates library file s g := by
  unfold read at h
  split at h
  · cases h
  · rename_i file hfile
    obtain ⟨s, hs⟩ := translates_of_groupOf h
    exact ⟨file, s, hfile, hs⟩

theorem mem_entries_of_mem_callables {e : Entry} (h : e ∈ d.callables) : e ∈ d.entries := by
  unfold Definition.entries
  split
  · exact h
  · exact h
  all_goals exact List.mem_cons_of_mem _ h

theorem isStray_of_mem_entries {e : Entry} (h : e ∈ d.entries) (hstray : e.isStray = true) :
    e ∈ d.callables ∧ d.losesCallables = true := by
  have hmem : e ∈ d.callables := by
    unfold Definition.entries at h
    split at h
    · exact h
    · exact h
    all_goals
      rcases List.mem_cons.1 h with rfl | h
      · cases hstray
      · exact h
  exact ⟨hmem, (isStray_of_mem_callables hmem).symm.trans hstray⟩

/-- Every entry is held when no definition loses one. -/
theorem heldEntries_eq_self_iff (file : File) : heldEntries file.entries = file.entries ↔
    ∀ d ∈ file, d.losesCallables = true → d.callables = [] := by
  rw [heldEntries, List.filter_eq_self]
  constructor
  · intro h d hd hloses
    refine List.eq_nil_iff_forall_not_mem.2 fun e he => ?_
    have hentry : e ∈ file.entries := List.mem_append_right _
      (List.mem_flatMap.2 ⟨d, hd, mem_entries_of_mem_callables he⟩)
    have hheld := h e hentry
    rw [isStray_of_mem_callables he, hloses] at hheld
    cases hheld
  · intro h e he
    rcases List.mem_append.1 he with he | he
    · obtain ⟨d, -, rfl⟩ := List.mem_map.1 he
      rfl
    · obtain ⟨d, hd, he⟩ := List.mem_flatMap.1 he
      rw [Bool.not_eq_true', ← Bool.not_eq_true]
      intro hstray
      obtain ⟨hmem, hloses⟩ := isStray_of_mem_entries he hstray
      rw [h d hd hloses] at hmem
      cases hmem

@[simp] theorem functionsFrom_eq_nil {place : Nat} {functions : List FunctionDecl} :
    functionsFrom d place functions = [] ↔ functions = [] := by
  cases functions <;> simp [functionsFrom]

/-- An interface has no callables exactly if no member is a constructor or a function. -/
theorem callables_eq_nil_iff {members : List MemberDecl} (hbody : d.body = .interface members) :
    d.callables = [] ↔ ∀ m ∈ members, m.constructor? = none ∧ m.function? = none := by
  simp [Definition.callables, hbody, List.filterMap_eq_nil_iff, forall_and]

/-- In a file that is read, each interface can hold its members unless one loses callables. -/
theorem Translates.canHold_iff {library : String} {file : File} {g : Group}
    (h : Translates library file s g) :
    (∀ d ∈ file, ∀ members, d.body = .interface members → ∀ m ∈ members, d.canHold m = true) ↔
      ∀ d ∈ file, d.losesCallables = true → d.callables = [] := by
  constructor
  · intro hholds d hd hloses
    unfold Definition.losesCallables at hloses
    split at hloses
    · rename_i members hbody
      refine (callables_eq_nil_iff hbody).2 fun m hm => ?_
      have hholds := hholds d hd members hbody m hm
      cases m with
      | variant v => exact ⟨rfl, rfl⟩
      | constructor _ | function _ => simp [Definition.canHold, hloses] at hholds
    · cases hloses
  · intro hnone d hd members hbody m hm
    cases hkind : d.isEnumeration with
    | false =>
      cases m with
      | variant v =>
        have hvariant := h.variants d hd members hbody v hm
        rw [hkind] at hvariant
        cases hvariant
      | constructor _ | function _ => simp [Definition.canHold, hkind]
    | true =>
      have hloses : d.losesCallables = true := by simp [Definition.losesCallables, hbody, hkind]
      have hm := (callables_eq_nil_iff hbody).1 (hnone d hd hloses) m hm
      cases m with
      | variant v => exact hkind
      | constructor c => cases hm.1
      | function f => cases hm.2

/-- A text that is read gives one item for each thing that it declares, in order, except for the
callables of interfaces that stand for enumerations: these are lost. So nothing is lost exactly when
each interface can hold its members. A variant in any other interface is refused. -/
theorem read_complete_iff (library : String) (text : List Char) :
    (∀ g, read library text = .ok g → ∃ file s, parseFile text = .ok file ∧
      scopeOf library file = .ok s ∧ s.library = library ∧ g.library = library ∧
      List.Forall₂ (Gives s) (heldEntries file.entries) g.items ∧
      (List.Forall₂ (Gives s) file.entries g.items ↔
        ∀ d ∈ file, ∀ members, d.body = .interface members → ∀ m ∈ members, d.canHold m = true)) ∧
    ∀ file, parseFile text = .ok file → ∀ d ∈ file, ∀ members, d.body = .interface members →
      d.isEnumeration = false → ∀ v, .variant v ∈ members →
        ∃ fault report, read library text = .error fault ∧ fault.report library = .ok report ∧
          report.reason = .legacySyntax := by
  constructor
  · intro g hread
    obtain ⟨file, s, hfile, h⟩ := translates_of_read hread
    refine ⟨file, s, hfile, h.scope, h.inScope, h.inGroup, h.items, ?_⟩
    rw [h.canHold_iff, ← heldEntries_eq_self_iff]
    constructor
    · intro hall
      have hlength := h.items.length_eq.trans hall.length_eq.symm
      exact List.filter_sublist.eq_of_length hlength
    · intro hheld
      rw [← hheld]
      exact h.items
  · intro file hfile d hd members hbody hkind v hv
    have hread : read library text = groupOf library file := by rw [read, hfile]
    cases hitems : itemsOf library file with
    | error fault =>
      obtain ⟨report, hreport, hreason, -⟩ :=
        (ofText_itemsOf library file fault hitems).report library
      refine ⟨fault, report, ?_, hreport, hreason⟩
      rw [hread, groupOf, hitems]
      rfl
    | ok items =>
      obtain ⟨s, customs, itemss, -, -, -, hsteps, -⟩ := settled_of_itemsOf hitems
      obtain ⟨items, -, hd⟩ := exists_right hsteps hd
      have := isEnumeration_of_definitionItems hd hbody hv
      rw [hkind] at this
      cases this

/-- An interface that stands for an enumeration, with a function and a constructor beside its
variant. -/
def mixedText : List Char :=
  "namespace n \x7b\x7d;\n[Enum] interface E \x7b A(); void f(); constructor(); \x7d;".toList

/-- The same interface for an object, so that it is the variant which has no use. -/
def strayText : List Char :=
  "namespace n \x7b\x7d;\ninterface E \x7b A(); void f(); constructor(); \x7d;".toList

/-- What is left of the interface that stands for an enumeration. -/
def mixedGroup : Group where
  space := ⟨"a", "n"⟩
  items := [.enumeration ⟨"a", "E", [⟨"A", [], none⟩], false, none⟩]
  nodup := by decide

theorem read_mixedText : read "a" mixedText = .ok mixedGroup := by decide +kernel

/-- The function and the constructor are gone, and the file is read all the same. -/
theorem read_drops_callables : read "a" mixedText = .ok mixedGroup ∧
    ∃ file, parseFile mixedText = .ok file ∧ (file.flatMap Definition.callables).length = 2 ∧
      ¬∃ s, List.Forall₂ (Gives s) file.entries mixedGroup.items := by
  have hcounts : (parseFile mixedText).map (fun file =>
      ((file.flatMap Definition.callables).length, file.entries.length)) = .ok (2, 3) := by
    decide +kernel
  obtain ⟨file, hfile, hcounts⟩ := map_eq_ok.1 hcounts
  obtain ⟨hcallables, hentries⟩ := Prod.mk.inj hcounts
  refine ⟨read_mixedText, file, hfile, hcallables, ?_⟩
  rintro ⟨s, hall⟩
  have hlength := hall.length_eq
  rw [hentries] at hlength
  cases hlength

theorem read_complete_iff_mixed :
    (∃ file s, parseFile mixedText = .ok file ∧ scopeOf "a" file = .ok s ∧
      List.Forall₂ (Gives s) (heldEntries file.entries) mixedGroup.items) ∧
    ∃ fault report, read "a" strayText = .error fault ∧ fault.report "a" = .ok report ∧
      report.reason = .legacySyntax := by
  obtain ⟨file, s, hfile, hscope, -, -, hall, -⟩ :=
    (read_complete_iff "a" mixedText).1 _ read_mixedText
  refine ⟨⟨file, s, hfile, hscope, hall⟩, ?_⟩
  have hstray : parseFile strayText = .ok [
      ⟨⟨1, 1⟩, [], ⟨"n", ⟨1, 11⟩⟩, .space []⟩,
      ⟨⟨2, 1⟩, [], ⟨"E", ⟨2, 11⟩⟩, .interface [
        .variant ⟨⟨"A", ⟨2, 15⟩⟩, []⟩,
        .function ⟨⟨2, 20⟩, [], none, ⟨"f", ⟨2, 25⟩⟩, []⟩,
        .constructor ⟨⟨2, 30⟩, [], []⟩]⟩] := by decide +kernel
  exact (read_complete_iff "a" strayText).2 _ hstray _ (List.mem_cons_of_mem _ List.mem_cons_self)
    _ rfl rfl _ List.mem_cons_self

end Bindery.Legacy
