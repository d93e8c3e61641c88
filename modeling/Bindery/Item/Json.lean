import Bindery.Item.Term
import Bindery.Ty.Json
/-!
# Items as JSON

The JSON form of an item: an object with its kind and its fields. Writing gives every field;
reading fills in the fields that have a default, ignores members it does not know, and reports the
first fault in the order of the fields.
-/
namespace Bindery

open Json

def Param.toJson (p : Param) : Json := .obj [("name", .str p.name), ("ty", p.ty.toJson)]

def Field.toJson (f : Field) : Json :=
  .obj [("name", .str f.name), ("ty", f.ty.toJson), ("default", ofText? f.default),
    ("docstring", ofText? f.docstring)]

def Variant.toJson (v : Variant) : Json :=
  .obj [("name", .str v.name), ("fields", .arr (v.fields.map Field.toJson)),
    ("docstring", ofText? v.docstring)]

namespace Item

def paramsJson (inputs : List Param) : Json := .arr (inputs.map Param.toJson)

def tyJson? : Option Ty → Json := ofOption Ty.toJson

/-- The fields of an item under their names. -/
def fieldsJson : Item → Members
  | space n => [("crate_name", .str n.library), ("name", .str n.name)]
  | legacy m =>
    [("module_path", .str m.modulePath), ("namespace", .str m.namespaceName),
      ("file_stub", .str m.fileStub)]
  | custom c =>
    [("module_path", .str c.modulePath), ("name", .str c.name), ("builtin", c.builtin.toJson),
      ("docstring", ofText? c.docstring)]
  | record r =>
    [("module_path", .str r.modulePath), ("name", .str r.name),
      ("fields", .arr (r.fields.map Field.toJson)), ("docstring", ofText? r.docstring)]
  | enumeration e =>
    [("module_path", .str e.modulePath), ("name", .str e.name),
      ("variants", .arr (e.variants.map Variant.toJson)), ("is_error", .bool e.isError),
      ("docstring", ofText? e.docstring)]
  | object o =>
    [("module_path", .str o.modulePath), ("name", .str o.name), ("is_trait", .bool o.isTrait),
      ("docstring", ofText? o.docstring)]
  | callback c =>
    [("module_path", .str c.modulePath), ("name", .str c.name),
      ("docstring", ofText? c.docstring)]
  | constructor c =>
    [("module_path", .str c.modulePath), ("self_name", .str c.owner), ("name", .str c.name),
      ("inputs", paramsJson c.inputs), ("return_type", tyJson? c.returns),
      ("throws", tyJson? c.throws), ("docstring", ofText? c.docstring)]
  | method m =>
    [("module_path", .str m.modulePath), ("self_name", .str m.owner), ("name", .str m.name),
      ("inputs", paramsJson m.inputs), ("return_type", tyJson? m.returns),
      ("throws", tyJson? m.throws), ("is_async", .bool m.isAsync),
      ("docstring", ofText? m.docstring)]
  | traitMethod m =>
    [("module_path", .str m.modulePath), ("trait_name", .str m.owner), ("index", .int m.index),
      ("name", .str m.name), ("inputs", paramsJson m.inputs), ("return_type", tyJson? m.returns),
      ("throws", tyJson? m.throws), ("is_async", .bool m.isAsync),
      ("docstring", ofText? m.docstring)]
  | function f =>
    [("module_path", .str f.modulePath), ("name", .str f.name), ("inputs", paramsJson f.inputs),
      ("return_type", tyJson? f.returns), ("throws", tyJson? f.throws),
      ("is_async", .bool f.isAsync), ("docstring", ofText? f.docstring)]

def toJson (item : Item) : Json := .obj (("kind", .str item.kind) :: item.fieldsJson)

def listToJson (items : List Item) : Json := .arr (items.map toJson)

/-- A text field, or nothing where the key is missing. -/
def readText? (owner : String) (members : Members) (key : String) :
    Except Malformed (Option String) :=
  match member? members key with
  | none => .ok none
  | some (.str s) => .ok (some s)
  | some _ => .error (.badField owner key)

/-- A text that may be null or missing. -/
def readOptionalText (owner : String) (members : Members) (key : String) :
    Except Malformed (Option String) :=
  match memberOrNull members key with
  | .null => .ok none
  | .str s => .ok (some s)
  | _ => .error (.badField owner key)

def readInt? (owner : String) (members : Members) (key : String) : Except Malformed (Option Int) :=
  match member? members key with
  | none => .ok none
  | some (.int n) => .ok (some n)
  | some _ => .error (.badField owner key)

/-- A type, or nothing where the key is missing. -/
def readTy? (members : Members) (key : String) : Except Malformed (Option Ty) :=
  match member? members key with
  | none => .ok none
  | some value => (Ty.ofJson value).map some

/-- A type that may be null or missing. -/
def readOptionalTy (members : Members) (key : String) : Except Malformed (Option Ty) :=
  match memberOrNull members key with
  | .null => .ok none
  | value => (Ty.ofJson value).map some

/-- A list that may be null or missing. -/
def readList (owner : String) (read : Json → Except Malformed α) (members : Members)
    (key : String) : Except Malformed (List α) :=
  match memberOrNull members key with
  | .null => .ok []
  | .arr elements => elements.mapM read
  | _ => .error (.badList owner key)

def readParam : Json → Except Malformed Param
  | .obj members => do
    let name ← requireText members "param" "name"
    let ty ← Ty.ofMember "ty" members
    pure ⟨name, ty⟩
  | _ => .error (.badEntry "param")

def readField : Json → Except Malformed Field
  | .obj members => do
    let name ← requireText members "field" "name"
    let ty ← Ty.ofMember "ty" members
    let default ← readOptionalText "field" members "default"
    let docstring ← readOptionalText "field" members "docstring"
    pure ⟨name, ty, default, docstring⟩
  | _ => .error (.badEntry "field")

def readVariant : Json → Except Malformed Variant
  | .obj members => do
    let name ← requireText members "variant" "name"
    let fields ← readList "variant" readField members "fields"
    let docstring ← readOptionalText "variant" members "docstring"
    pure ⟨name, fields, docstring⟩
  | _ => .error (.badEntry "variant")

/-- The fault of an item of which fields without a default are missing. -/
def lacking (kind constructor : String) (fields : List (String × Bool)) : Malformed :=
  .incomplete kind constructor ((fields.filter fun field => !field.2).map Prod.fst)

def readNamespace (m : Members) : Except Malformed Item := do
  let library ← readText? "Namespace" m "crate_name"
  let name ← readText? "Namespace" m "name"
  match library, name with
  | some library, some name => pure (space ⟨library, name⟩)
  | _, _ =>
    throw (lacking "Namespace" "NamespaceMetadata"
      [("crate_name", library.isSome), ("name", name.isSome)])

def readLegacy (m : Members) : Except Malformed Item := do
  let modulePath ← readText? "UdlFile" m "module_path"
  let namespaceName ← readText? "UdlFile" m "namespace"
  let fileStub ← readText? "UdlFile" m "file_stub"
  match modulePath, namespaceName, fileStub with
  | some modulePath, some namespaceName, some fileStub =>
    pure (legacy ⟨modulePath, namespaceName, fileStub⟩)
  | _, _, _ =>
    throw (lacking "UdlFile" "UdlFileMetadata"
      [("module_path", modulePath.isSome), ("namespace", namespaceName.isSome),
        ("file_stub", fileStub.isSome)])

def readFunction (m : Members) : Except Malformed Item := do
  let modulePath ← readText? "Func" m "module_path"
  let name ← readText? "Func" m "name"
  let inputs ← readList "Func" readParam m "inputs"
  let returns ← readOptionalTy m "return_type"
  let throws ← readOptionalTy m "throws"
  let isAsync ← flagOr m "Func" "is_async" false
  let docstring ← readOptionalText "Func" m "docstring"
  match modulePath, name with
  | some modulePath, some name =>
    pure (function ⟨modulePath, name, inputs, returns, throws, isAsync, docstring⟩)
  | _, _ =>
    throw (lacking "Func" "FnMetadata"
      [("module_path", modulePath.isSome), ("name", name.isSome)])

def readConstructor (m : Members) : Except Malformed Item := do
  let modulePath ← readText? "Constructor" m "module_path"
  let owner ← readText? "Constructor" m "self_name"
  let name ← readText? "Constructor" m "name"
  let inputs ← readList "Constructor" readParam m "inputs"
  let returns ← readOptionalTy m "return_type"
  let throws ← readOptionalTy m "throws"
  let docstring ← readOptionalText "Constructor" m "docstring"
  match modulePath, owner, name with
  | some modulePath, some owner, some name =>
    pure (constructor ⟨modulePath, owner, name, inputs, returns, throws, docstring⟩)
  | _, _, _ =>
    throw (lacking "Constructor" "ConstructorMetadata"
      [("module_path", modulePath.isSome), ("self_name", owner.isSome), ("name", name.isSome)])

def readMethod (m : Members) : Except Malformed Item := do
  let modulePath ← readText? "Method" m "module_path"
  let owner ← readText? "Method" m "self_name"
  let name ← readText? "Method" m "name"
  let inputs ← readList "Method" readParam m "inputs"
  let returns ← readOptionalTy m "return_type"
  let throws ← readOptionalTy m "throws"
  let isAsync ← flagOr m "Method" "is_async" false
  let docstring ← readOptionalText "Method" m "docstring"
  match modulePath, owner, name with
  | some modulePath, some owner, some name =>
    pure (method ⟨modulePath, owner, name, inputs, returns, throws, isAsync, docstring⟩)
  | _, _, _ =>
    throw (lacking "Method" "MethodMetadata"
      [("module_path", modulePath.isSome), ("self_name", owner.isSome), ("name", name.isSome)])

def readTraitMethod (m : Members) : Except Malformed Item := do
  let modulePath ← readText? "TraitMethod" m "module_path"
  let owner ← readText? "TraitMethod" m "trait_name"
  let index ← readInt? "TraitMethod" m "index"
  let name ← readText? "TraitMethod" m "name"
  let inputs ← readList "TraitMethod" readParam m "inputs"
  let returns ← readOptionalTy m "return_type"
  let throws ← readOptionalTy m "throws"
  let isAsync ← flagOr m "TraitMethod" "is_async" false
  let docstring ← readOptionalText "TraitMethod" m "docstring"
  match modulePath, owner, index, name with
  | some modulePath, some owner, some index, some name =>
    pure (traitMethod
      ⟨modulePath, owner, index, name, inputs, returns, throws, isAsync, docstring⟩)
  | _, _, _, _ =>
    throw (lacking "TraitMethod" "TraitMethodMetadata"
      [("module_path", modulePath.isSome), ("trait_name", owner.isSome), ("index", index.isSome),
        ("name", name.isSome)])

def readRecord (m : Members) : Except Malformed Item := do
  let modulePath ← readText? "Record" m "module_path"
  let name ← readText? "Record" m "name"
  let fields ← readList "Record" readField m "fields"
  let docstring ← readOptionalText "Record" m "docstring"
  match modulePath, name with
  | some modulePath, some name => pure (record ⟨modulePath, name, fields, docstring⟩)
  | _, _ =>
    throw (lacking "Record" "RecordMetadata"
      [("module_path", modulePath.isSome), ("name", name.isSome)])

def readEnumeration (m : Members) : Except Malformed Item := do
  let modulePath ← readText? "Enum" m "module_path"
  let name ← readText? "Enum" m "name"
  let variants ← readList "Enum" readVariant m "variants"
  let isError ← flagOr m "Enum" "is_error" false
  let docstring ← readOptionalText "Enum" m "docstring"
  match modulePath, name with
  | some modulePath, some name =>
    pure (enumeration ⟨modulePath, name, variants, isError, docstring⟩)
  | _, _ =>
    throw (lacking "Enum" "EnumMetadata"
      [("module_path", modulePath.isSome), ("name", name.isSome)])

def readObject (m : Members) : Except Malformed Item := do
  let modulePath ← readText? "Object" m "module_path"
  let name ← readText? "Object" m "name"
  let isTrait ← flagOr m "Object" "is_trait" false
  let docstring ← readOptionalText "Object" m "docstring"
  match modulePath, name with
  | some modulePath, some name => pure (object ⟨modulePath, name, isTrait, docstring⟩)
  | _, _ =>
    throw (lacking "Object" "ObjectMetadata"
      [("module_path", modulePath.isSome), ("name", name.isSome)])

def readCallback (m : Members) : Except Malformed Item := do
  let modulePath ← readText? "CallbackInterface" m "module_path"
  let name ← readText? "CallbackInterface" m "name"
  let docstring ← readOptionalText "CallbackInterface" m "docstring"
  match modulePath, name with
  | some modulePath, some name => pure (callback ⟨modulePath, name, docstring⟩)
  | _, _ =>
    throw (lacking "CallbackInterface" "CallbackInterfaceMetadata"
      [("module_path", modulePath.isSome), ("name", name.isSome)])

def readCustom (m : Members) : Except Malformed Item := do
  let modulePath ← readText? "CustomType" m "module_path"
  let name ← readText? "CustomType" m "name"
  let builtin ← readTy? m "builtin"
  let docstring ← readOptionalText "CustomType" m "docstring"
  match modulePath, name, builtin with
  | some modulePath, some name, some builtin =>
    pure (custom ⟨modulePath, name, builtin, docstring⟩)
  | _, _, _ =>
    throw (lacking "CustomType" "CustomTypeMetadata"
      [("module_path", modulePath.isSome), ("name", name.isSome), ("builtin", builtin.isSome)])

/-- The reader of a kind of items. -/
def reader? (kind : String) : Option (Members → Except Malformed Item) :=
  if kind = "Namespace" then some readNamespace
  else if kind = "UdlFile" then some readLegacy
  else if kind = "Func" then some readFunction
  else if kind = "Constructor" then some readConstructor
  else if kind = "Method" then some readMethod
  else if kind = "TraitMethod" then some readTraitMethod
  else if kind = "Record" then some readRecord
  else if kind = "Enum" then some readEnumeration
  else if kind = "Object" then some readObject
  else if kind = "CallbackInterface" then some readCallback
  else if kind = "CustomType" then some readCustom
  else none

def ofJson : Json → Except Malformed Item
  | .obj members =>
    match memberOrNull members "kind" with
    | .str kind =>
      match reader? kind with
      | some read => read members
      | none => .error (.unknownItemKind (.str kind))
    | kind => .error (.unknownItemKind kind)
  | _ => .error .itemNotObject

end Item
end Bindery
