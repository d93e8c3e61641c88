import Bindery.Legacy.Scope
/-!
# Items of a legacy interface file

The group of items that a legacy file describes: the custom types first, since later definitions may
use them, then every definition in the order of the file.
-/
namespace Bindery.Legacy

/-- The library of a file and the names that it declares. -/
structure Scope where
  library : String
  declared : Declared

def paramOf (s : Scope) (p : ParamDecl) : Except Fault Param :=
  (tyOf s.declared p.type).map fun ty => ⟨p.name.text, ty⟩

def paramsOf (s : Scope) (ps : List ParamDecl) : Except Fault (List Param) := ps.mapM (paramOf s)

def resultOf (s : Scope) : Option TypeExpr → Except Fault (Option Ty)
  | none => .ok none
  | some type => (tyOf s.declared type).map some

/-- The error type that the attributes of a callable name. -/
def throwsOf (s : Scope) (attributes : List Attribute) (mark : Mark) :
    Except Fault (Option Ty) := do
  let notes ← notesOf attributes
  match notes.get? "Throws" with
  | none => pure none
  | some value =>
    match filled? value with
    | none => throw (.noErrorType mark)
    | some name =>
      match s.declared.get? name with
      | none => throw (.unknownErrorType name mark)
      | some ty => pure (some ty)

structure Signature where
  inputs : List Param
  returns : Option Ty
  throws : Option Ty
  isAsync : Bool

def signatureOf (s : Scope) (f : FunctionDecl) : Except Fault Signature := do
  let inputs ← paramsOf s f.params
  let returns ← resultOf s f.result
  let throws ← throwsOf s f.attributes f.mark
  let notes ← notesOf f.attributes
  pure ⟨inputs, returns, throws, notes.contains "Async"⟩

def functionItem (s : Scope) (f : FunctionDecl) : Except Fault Item := do
  let g ← signatureOf s f
  pure (.function ⟨s.library, f.name.text, g.inputs, g.returns, g.throws, g.isAsync, none⟩)

def methodItem (s : Scope) (owner : String) (f : FunctionDecl) : Except Fault Item := do
  let g ← signatureOf s f
  pure (.method ⟨s.library, owner, f.name.text, g.inputs, g.returns, g.throws, g.isAsync, none⟩)

/-- The methods of a trait, numbered by their place. -/
def traitMethodItems (s : Scope) (owner : String) :
    (index : Nat) → List FunctionDecl → Except Fault (List Item)
  | _, [] => .ok []
  | index, f :: rest => do
    let g ← signatureOf s f
    let item := Item.traitMethod
      ⟨s.library, owner, index, f.name.text, g.inputs, g.returns, g.throws, g.isAsync, none⟩
    let items ← traitMethodItems s owner (index + 1) rest
    pure (item :: items)

/-- A constructor has the name that its attributes give it, or is called `new`. -/
def constructorItem (s : Scope) (owner : String) (c : ConstructorDecl) : Except Fault Item := do
  let notes ← notesOf c.attributes
  let name := (filled? ((notes.get? "Name").getD none)).getD "new"
  let inputs ← paramsOf s c.params
  let throws ← throwsOf s c.attributes c.mark
  pure (.constructor ⟨s.library, owner, name, inputs, none, throws, none⟩)

def defaultText : Option DefaultValue → Except Fault (Option String)
  | none => .ok none
  | some (.text l) => (decodeLiteral l).map some
  | some (.number spelling) => .ok (some spelling)
  | some (.word w) => .ok (some w.text)

def fieldOf (s : Scope) (f : FieldDecl) : Except Fault Field := do
  let default ← defaultText f.default
  let ty ← tyOf s.declared f.type
  pure ⟨f.name.text, ty, default, none⟩

def valueOf (l : Literal) : Except Fault Variant :=
  (decodeLiteral l).map fun name => ⟨name, [], none⟩

def variantOf (s : Scope) (v : VariantDecl) : Except Fault Variant :=
  (paramsOf s v.params).map fun params =>
    ⟨v.name.text, params.map fun p => ⟨p.name, p.ty, none, none⟩, none⟩

/-- The items of an interface: an enumeration of its variants, or an object with its members. -/
def interfaceItems (s : Scope) (notes : Notes) (d : Definition) (members : List MemberDecl) :
    Except Fault (List Item) := do
  let name := d.name.text
  let variants := members.filterMap MemberDecl.variant?
  if notes.isEnumeration then
    let variants ← variants.mapM (variantOf s)
    pure [.enumeration ⟨s.library, name, variants, notes.contains "Error", none⟩]
  else if variants ≠ [] then throw (.strayVariants name d.mark)
  else
    let isTrait := notes.contains "Trait"
    let constructors ← (members.filterMap MemberDecl.constructor?).mapM (constructorItem s name)
    let functions := members.filterMap MemberDecl.function?
    let methods ←
      if isTrait then traitMethodItems s name 0 functions
      else functions.mapM (methodItem s name)
    pure (.object ⟨s.library, name, isTrait, none⟩ :: constructors ++ methods)

def definitionItems (s : Scope) (d : Definition) : Except Fault (List Item) := do
  let notes ← notesOf d.attributes
  match d.body with
  | .space functions => functions.mapM (functionItem s)
  | .dictionary fields =>
    let fields ← fields.mapM (fieldOf s)
    pure [.record ⟨s.library, d.name.text, fields, none⟩]
  | .enumeration values _ =>
    let variants ← values.mapM valueOf
    pure [.enumeration ⟨s.library, d.name.text, variants, notes.contains "Error", none⟩]
  | .interface members => interfaceItems s notes d members
  | .callback functions =>
    let methods ← traitMethodItems s d.name.text 0 functions
    pure (.callback ⟨s.library, d.name.text, none⟩ :: methods)
  | .typedef _ => pure []

/-- Declare the custom type of a typedef, built from names that are declared already. -/
def customItem (s : Scope) (name : Word) (target : TypedefTarget) :
    Except Fault (Scope × Item) :=
  match target with
  | .foreign => .error (.noBuiltin name.text name.mark)
  | .type type => do
    let builtin ← tyOf s.declared type
    let declared ← declare s.declared name (.custom s.library name.text builtin)
    pure (⟨s.library, declared⟩, .custom ⟨s.library, name.text, builtin, none⟩)

/-- Take a definition when it is a typedef of this library's own. -/
def collectCustom (state : Scope × List Item) (d : Definition) :
    Except Fault (Scope × List Item) :=
  match d.body with
  | .typedef target => do
    let notes ← notesOf d.attributes
    if notes.isExternal then pure state
    else if notes.contains "Custom" then
      let (scope, item) ← customItem state.1 d.name target
      pure (scope, state.2 ++ [item])
    else throw (.bareTypedef d.name.text d.name.mark)
  | _ => .ok state

/-- The namespace of a file and its items, in order. -/
def itemsOf (library : String) (file : File) : Except Fault (String × List Item) := do
  let (space, declared) ← collect library file
  let (scope, customs) ← file.foldlM collectCustom (⟨library, declared⟩, [])
  let items ← file.mapM (definitionItems scope)
  pure (space, customs ++ items.flatten)

/-- The group that a parsed file describes. -/
def groupOf (library : String) (file : File) : Except Fault Group := do
  let (space, items) ← itemsOf library file
  ((Group.empty ⟨library, space⟩).addAll items).mapError .item

/-- Read the text of a legacy file of a library. -/
def read (library : String) (text : List Char) : Except Fault Group :=
  match parseFile text with
  | .error fault => .error (.notSyntax fault)
  | .ok file => groupOf library file

end Bindery.Legacy
