import Bindery.Ty.Basic
/-!
# Metadata items

An item is one fact about the public interface of a library. The items of a library come in no
particular order; `Bindery.Item.Order` has the canonical one.
-/
namespace Bindery

/-- The public name of a library. -/
structure Namespace where
  library : String
  name : String
  deriving DecidableEq, Repr, Inhabited

/-- The library also ships a legacy interface file. -/
structure LegacyMarker where
  modulePath : String
  namespaceName : String
  fileStub : String
  deriving DecidableEq, Repr

structure Param where
  name : String
  ty : Ty
  deriving DecidableEq, Repr

structure Field where
  name : String
  ty : Ty
  default : Option String := none
  docstring : Option String := none
  deriving DecidableEq, Repr

structure Function where
  modulePath : String
  name : String
  inputs : List Param := []
  returns : Option Ty := none
  throws : Option Ty := none
  isAsync : Bool := false
  docstring : Option String := none
  deriving DecidableEq, Repr

structure Constructor where
  modulePath : String
  owner : String
  name : String
  inputs : List Param := []
  returns : Option Ty := none
  throws : Option Ty := none
  docstring : Option String := none
  deriving DecidableEq, Repr

structure Method where
  modulePath : String
  owner : String
  name : String
  inputs : List Param := []
  returns : Option Ty := none
  throws : Option Ty := none
  isAsync : Bool := false
  docstring : Option String := none
  deriving DecidableEq, Repr

/-- A method of a trait or a callback interface; `index` is its place among them. -/
structure TraitMethod where
  modulePath : String
  owner : String
  index : Int
  name : String
  inputs : List Param := []
  returns : Option Ty := none
  throws : Option Ty := none
  isAsync : Bool := false
  docstring : Option String := none
  deriving DecidableEq, Repr

structure Record where
  modulePath : String
  name : String
  fields : List Field := []
  docstring : Option String := none
  deriving DecidableEq, Repr

structure Variant where
  name : String
  fields : List Field := []
  docstring : Option String := none
  deriving DecidableEq, Repr

structure Enumeration where
  modulePath : String
  name : String
  variants : List Variant := []
  isError : Bool := false
  docstring : Option String := none
  deriving DecidableEq, Repr

structure Object where
  modulePath : String
  name : String
  isTrait : Bool := false
  docstring : Option String := none
  deriving DecidableEq, Repr

structure CallbackInterface where
  modulePath : String
  name : String
  docstring : Option String := none
  deriving DecidableEq, Repr

structure CustomType where
  modulePath : String
  name : String
  builtin : Ty
  docstring : Option String := none
  deriving DecidableEq, Repr

inductive Item where
  | space (n : Namespace)
  | legacy (m : LegacyMarker)
  | custom (c : CustomType)
  | record (r : Record)
  | enumeration (e : Enumeration)
  | object (o : Object)
  | callback (c : CallbackInterface)
  | constructor (c : Constructor)
  | method (m : Method)
  | traitMethod (m : TraitMethod)
  | function (f : Function)
  deriving DecidableEq, Repr

namespace Item

/-- The kind of an item in its JSON form. -/
def kind : Item → String
  | space _ => "Namespace"
  | legacy _ => "UdlFile"
  | custom _ => "CustomType"
  | record _ => "Record"
  | enumeration _ => "Enum"
  | object _ => "Object"
  | callback _ => "CallbackInterface"
  | constructor _ => "Constructor"
  | method _ => "Method"
  | traitMethod _ => "TraitMethod"
  | function _ => "Func"

/-- The place of a kind in the canonical order: facts about the library, then declarations of
types, then callables. -/
def rank : Item → Nat
  | space _ => 0
  | legacy _ => 1
  | custom _ => 2
  | record _ => 3
  | enumeration _ => 4
  | object _ => 5
  | callback _ => 6
  | constructor _ => 7
  | method _ => 8
  | traitMethod _ => 9
  | function _ => 10

/-- The module path of an item; that of a namespace is its library. -/
def modulePath : Item → String
  | space n => n.library
  | legacy m => m.modulePath
  | custom c => c.modulePath
  | record r => r.modulePath
  | enumeration e => e.modulePath
  | object o => o.modulePath
  | callback c => c.modulePath
  | constructor c => c.modulePath
  | method m => m.modulePath
  | traitMethod m => m.modulePath
  | function f => f.modulePath

/-- The name that an item is shown by; a member is shown behind its owner. -/
def name : Item → String
  | space n => n.name
  | legacy m => m.fileStub
  | custom c => c.name
  | record r => r.name
  | enumeration e => e.name
  | object o => o.name
  | callback c => c.name
  | constructor c => c.owner ++ "." ++ c.name
  | method m => m.owner ++ "." ++ m.name
  | traitMethod m => m.owner ++ "." ++ m.name
  | function f => f.name

/-- The library that owns an item. -/
def library (item : Item) : String := libraryOf item.modulePath

def describe (item : Item) : String := item.kind ++ " " ++ item.modulePath ++ "::" ++ item.name

/-- The key of a record or an enumeration. -/
def ident? : Item → Option Ident
  | record r => some ⟨r.modulePath, r.name⟩
  | enumeration e => some ⟨e.modulePath, e.name⟩
  | _ => none

def isNamespace : Item → Bool
  | space _ => true
  | _ => false

def legacyMarker? : Item → Option LegacyMarker
  | legacy m => some m
  | _ => none

/-- The types in the fields of a record or of the variants of an enumeration. -/
def fieldTypes : Item → List Ty
  | record r => r.fields.map Field.ty
  | enumeration e => e.variants.flatMap fun v => v.fields.map Field.ty
  | _ => []

/-- The types of a signature: parameters, result, error. -/
def signatureTypes (inputs : List Param) (returns throws : Option Ty) : List Ty :=
  inputs.map Param.ty ++ returns.toList ++ throws.toList

/-- The types that an item mentions, without those inside them. -/
def types : Item → List Ty
  | function f => signatureTypes f.inputs f.returns f.throws
  | constructor c => signatureTypes c.inputs c.returns c.throws
  | method m => signatureTypes m.inputs m.returns m.throws
  | traitMethod m => signatureTypes m.inputs m.returns m.throws
  | custom c => [c.builtin]
  | item => item.fieldTypes

end Item
end Bindery
