import Bindery.Legacy.Items
import Bindery.Proofs.Outcome
/-!
# Faults of the text of a legacy interface file

Until its items are grouped, a file fails with faults of its text only, which are all reported as
such.
-/
namespace Bindery.Legacy

open Outcome

/-- A fault of the text, and not of the items that it describes. -/
def Fault.IsOfText : Fault → Prop
  | item _ => False
  | _ => True

/-- A fault of the text is reported as a fault of a legacy file. -/
theorem Fault.IsOfText.report {fault : Fault} (h : fault.IsOfText) (library : String) :
    ∃ d, fault.report library = .ok d ∧ d.reason = .legacySyntax ∧ d.library = some library ∧
      d.message = fault.message := by
  cases fault with
  | item _ => exact h.elim
  | _ => exact ⟨_, rfl, rfl, rfl, rfl⟩

abbrev OfText {α : Type} (x : Except Fault α) : Prop := FailsOnly Fault.IsOfText x

open FailsOnly

theorem ofText_decodeLiteral (l : Literal) : OfText (decodeLiteral l) := mapError fun _ => trivial

theorem ofText_attributeText (value : Option AttributeValue) : OfText (attributeText value) := by
  cases value with
  | none => exact .ok _
  | some value =>
    cases value with
    | word w => exact .ok _
    | text l => exact (ofText_decodeLiteral l).map some

theorem ofText_note (notes : Notes) (a : Attribute) : OfText (note notes a) :=
  (ofText_attributeText a.value).map _

theorem ofText_notesOf (attributes : List Attribute) : OfText (notesOf attributes) :=
  foldlM ofText_note attributes Table.empty

theorem ofText_declare (declared : Declared) (name : Word) (ty : Ty) :
    OfText (declare declared name ty) := by
  unfold declare
  split
  · exact error_iff.2 trivial
  · exact .ok _

theorem ofText_externalTy (notes : Notes) (name : Word) (target : TypedefTarget) :
    OfText (externalTy notes name target) := by
  cases target with
  | type _ => exact error_iff.2 trivial
  | foreign =>
    simp only [externalTy]
    split
    · exact error_iff.2 trivial
    · exact .ok _

theorem ofText_declaredTy? (library : String) (notes : Notes) (name : Word) (body : Body) :
    OfText (declaredTy? library notes name body) := by
  cases body with
  | typedef target =>
    simp only [declaredTy?]
    split
    · exact (ofText_externalTy notes name target).map some
    · exact .ok _
  | _ => exact .ok _

theorem ofText_collectTy (library : String) (names : Names) (d : Definition) :
    OfText (collectTy library names d) :=
  (ofText_notesOf d.attributes).bind fun notes =>
    (ofText_declaredTy? library notes d.name d.body).bind fun
      | none => .ok _
      | some ty => (ofText_declare names.declared d.name ty).bind fun _ => .ok _

theorem ofText_collectOne (library : String) (names : Names) (d : Definition) :
    OfText (collectOne library names d) := by
  unfold collectOne
  split
  · split
    · exact error_iff.2 trivial
    · exact .ok _
  · exact ofText_collectTy library names d

/-- The names of a file are collected, or a fault of the text is found. -/
theorem ofText_collect (library : String) (file : File) : OfText (collect library file) := by
  refine (foldlM (ofText_collectOne library) file {}).bind fun names => ?_
  split
  · exact error_iff.2 trivial
  · exact .ok _

/-- A type is known, or a fault of the text is found. -/
theorem ofText_tyOf (declared : Declared) (e : TypeExpr) : OfText (tyOf declared e) := by
  induction e with
  | named w =>
    simp only [tyOf]
    split
    · exact .ok _
    · split
      · exact .ok _
      · exact error_iff.2 trivial
  | sequence inner ih | optional inner ih => exact ih.map _
  | map key value ihkey ihvalue => exact ihkey.bind fun _ => ihvalue.bind fun _ => .ok _

variable (s : Scope)

theorem ofText_paramOf (p : ParamDecl) : OfText (paramOf s p) :=
  (ofText_tyOf s.declared p.type).map _

theorem ofText_paramsOf (ps : List ParamDecl) : OfText (paramsOf s ps) := mapM (ofText_paramOf s) ps

theorem ofText_throwsOf (attributes : List Attribute) (mark : Mark) :
    OfText (throwsOf s attributes mark) := by
  refine (ofText_notesOf attributes).bind fun notes => ?_
  split
  · exact .ok _
  · split
    · exact error_iff.2 trivial
    · split
      · exact error_iff.2 trivial
      · exact .ok _

theorem ofText_signatureOf (f : FunctionDecl) : OfText (signatureOf s f) := by
  refine (ofText_paramsOf s f.params).bind fun _ => bind ?_ fun _ =>
    (ofText_throwsOf s f.attributes f.mark).bind fun _ =>
      (ofText_notesOf f.attributes).bind fun _ => .ok _
  cases f.result with
  | none => exact .ok _
  | some type => exact (ofText_tyOf s.declared type).map some

theorem ofText_functionItem (f : FunctionDecl) : OfText (functionItem s f) :=
  (ofText_signatureOf s f).bind fun _ => .ok _

theorem ofText_methodItem (owner : String) (f : FunctionDecl) : OfText (methodItem s owner f) :=
  (ofText_signatureOf s f).bind fun _ => .ok _

theorem ofText_traitMethodItems (owner : String) (place : Nat) (functions : List FunctionDecl) :
    OfText (traitMethodItems s owner place functions) := by
  induction functions generalizing place with
  | nil => exact .ok _
  | cons f functions ih =>
    exact (ofText_signatureOf s f).bind fun _ => (ih (place + 1)).bind fun _ => .ok _

theorem ofText_constructorItem (owner : String) (c : ConstructorDecl) :
    OfText (constructorItem s owner c) :=
  (ofText_notesOf c.attributes).bind fun _ => (ofText_paramsOf s c.params).bind fun _ =>
    (ofText_throwsOf s c.attributes c.mark).bind fun _ => .ok _

theorem ofText_fieldOf (f : FieldDecl) : OfText (fieldOf s f) := by
  refine bind ?_ fun _ => (ofText_tyOf s.declared f.type).bind fun _ => .ok _
  cases f.default with
  | none => exact .ok _
  | some default =>
    cases default with
    | text l => exact (ofText_decodeLiteral l).map some
    | number _ | word _ => exact .ok _

theorem ofText_valueOf (l : Literal) : OfText (valueOf l) := (ofText_decodeLiteral l).map _

theorem ofText_variantOf (v : VariantDecl) : OfText (variantOf s v) :=
  (ofText_paramsOf s v.params).map _

/-- The members of an interface make items, or a fault of the text is found. -/
theorem ofText_interfaceItems (notes : Notes) (d : Definition) (members : List MemberDecl) :
    OfText (interfaceItems s notes d members) := by
  simp only [interfaceItems]
  split
  · exact (mapM (ofText_variantOf s) _).bind fun _ => .ok _
  · split
    · exact error_iff.2 trivial
    · refine (mapM (ofText_constructorItem s d.name.text) _).bind fun _ => ?_
      split
      · exact (ofText_traitMethodItems s d.name.text 0 _).bind fun _ => .ok _
      · exact (mapM (ofText_methodItem s d.name.text) _).bind fun _ => .ok _

/-- A definition makes items, or a fault of the text is found. -/
theorem ofText_definitionItems (d : Definition) : OfText (definitionItems s d) := by
  refine (ofText_notesOf d.attributes).bind fun notes => ?_
  cases d.body with
  | space functions => exact mapM (ofText_functionItem s) functions
  | dictionary fields => exact (mapM (ofText_fieldOf s) fields).bind fun _ => .ok _
  | enumeration values _ => exact (mapM ofText_valueOf values).bind fun _ => .ok _
  | interface members => exact ofText_interfaceItems s notes d members
  | callback functions =>
    exact (ofText_traitMethodItems s d.name.text 0 functions).bind fun _ => .ok _
  | typedef _ => exact .ok _

theorem ofText_customItem (name : Word) (target : TypedefTarget) :
    OfText (customItem s name target) := by
  cases target with
  | foreign => exact error_iff.2 trivial
  | type e =>
    exact (ofText_tyOf s.declared e).bind fun builtin =>
      (ofText_declare s.declared name _).bind fun _ => .ok _

theorem ofText_collectCustom (state : Scope × List Item) (d : Definition) :
    OfText (collectCustom state d) := by
  unfold collectCustom
  split
  · refine (ofText_notesOf d.attributes).bind fun notes => ?_
    split
    · exact .ok _
    · split
      · exact (ofText_customItem state.1 d.name _).bind fun _ => .ok _
      · exact error_iff.2 trivial
  · exact .ok _

/-- Whatever keeps a file from describing items is a fault of its text. -/
theorem ofText_itemsOf (library : String) (file : File) : OfText (itemsOf library file) :=
  (ofText_collect library file).bind fun _ => (foldlM ofText_collectCustom file _).bind fun _ =>
    (mapM (ofText_definitionItems _) file).bind fun _ => .ok _

end Bindery.Legacy
