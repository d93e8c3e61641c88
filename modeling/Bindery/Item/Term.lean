import Bindery.Item.Basic
import Bindery.Ty.Term
/-!
# Terms of items

The full text of an item as a nested constructor call, built like the terms of types. An index of
any length has a term, because items are only ordered by it: the limit on the digits of an integer
is set where JSON is read and written.
-/
namespace Bindery

open Term

def Param.term (p : Param) : List Char :=
  call "FnParamMetadata" [("name", text p.name), ("ty", p.ty.term)]

def Field.term (f : Field) : List Char :=
  call "FieldMetadata" [
    ("name", text f.name), ("ty", f.ty.term), ("default", orNone text f.default),
    ("docstring", orNone text f.docstring)]

def Variant.term (v : Variant) : List Char :=
  call "VariantMetadata" [
    ("name", text v.name), ("fields", tuple (v.fields.map Field.term)),
    ("docstring", orNone text v.docstring)]

namespace Item

/-- The name of the constructor of an item in its term. -/
def constructorName : Item → String
  | space _ => "NamespaceMetadata"
  | legacy _ => "UdlFileMetadata"
  | custom _ => "CustomTypeMetadata"
  | record _ => "RecordMetadata"
  | enumeration _ => "EnumMetadata"
  | object _ => "ObjectMetadata"
  | callback _ => "CallbackInterfaceMetadata"
  | constructor _ => "ConstructorMetadata"
  | method _ => "MethodMetadata"
  | traitMethod _ => "TraitMethodMetadata"
  | function _ => "FnMetadata"

/-- The arguments of the term of an item. -/
def termArguments : Item → List (String × List Char)
  | space n => [("crate_name", text n.library), ("name", text n.name)]
  | legacy m =>
    [("module_path", text m.modulePath), ("namespace", text m.namespaceName),
      ("file_stub", text m.fileStub)]
  | custom c =>
    [("module_path", text c.modulePath), ("name", text c.name), ("builtin", c.builtin.term),
      ("docstring", orNone text c.docstring)]
  | record r =>
    [("module_path", text r.modulePath), ("name", text r.name),
      ("fields", tuple (r.fields.map Field.term)), ("docstring", orNone text r.docstring)]
  | enumeration e =>
    [("module_path", text e.modulePath), ("name", text e.name),
      ("variants", tuple (e.variants.map Variant.term)), ("is_error", flag e.isError),
      ("docstring", orNone text e.docstring)]
  | object o =>
    [("module_path", text o.modulePath), ("name", text o.name), ("is_trait", flag o.isTrait),
      ("docstring", orNone text o.docstring)]
  | callback c =>
    [("module_path", text c.modulePath), ("name", text c.name),
      ("docstring", orNone text c.docstring)]
  | constructor c =>
    [("module_path", text c.modulePath), ("self_name", text c.owner), ("name", text c.name),
      ("inputs", tuple (c.inputs.map Param.term)), ("return_type", orNone Ty.term c.returns),
      ("throws", orNone Ty.term c.throws), ("docstring", orNone text c.docstring)]
  | method m =>
    [("module_path", text m.modulePath), ("self_name", text m.owner), ("name", text m.name),
      ("inputs", tuple (m.inputs.map Param.term)), ("return_type", orNone Ty.term m.returns),
      ("throws", orNone Ty.term m.throws), ("is_async", flag m.isAsync),
      ("docstring", orNone text m.docstring)]
  | traitMethod m =>
    [("module_path", text m.modulePath), ("trait_name", text m.owner),
      ("index", Text.ofInt m.index), ("name", text m.name),
      ("inputs", tuple (m.inputs.map Param.term)), ("return_type", orNone Ty.term m.returns),
      ("throws", orNone Ty.term m.throws), ("is_async", flag m.isAsync),
      ("docstring", orNone text m.docstring)]
  | function f =>
    [("module_path", text f.modulePath), ("name", text f.name),
      ("inputs", tuple (f.inputs.map Param.term)), ("return_type", orNone Ty.term f.returns),
      ("throws", orNone Ty.term f.throws), ("is_async", flag f.isAsync),
      ("docstring", orNone text f.docstring)]

def term (item : Item) : List Char := call item.constructorName item.termArguments

def termText (item : Item) : String := String.ofList item.term

end Item
end Bindery
