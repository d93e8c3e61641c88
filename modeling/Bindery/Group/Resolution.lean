import Bindery.Diagnostic
import Bindery.Item.Basic
import Bindery.Table
/-!
# Resolution of foreign types

Every type of another library that an item mentions becomes an external reference with the public
name of its library and a flag that says whether its values can hold an object handle. Resolving a
resolved item changes nothing.
-/
namespace Bindery.Resolution

/-- What resolution needs to know: the library that owns the item, the public names of libraries,
and the records and enumerations that can hold no handle. -/
structure Context where
  library : String
  names : Table String String
  free : List Ident

inductive Fault where
  | unknownLibrary (target source typeName : String)
  | foreignCallback (library modulePath name : String)
  | disagreement (target : External) (expected : String)
  deriving DecidableEq, Repr

def isForeign (ctx : Context) (modulePath : String) : Bool :=
  decide (libraryOf modulePath ≠ ctx.library)

/-- The public name of the library that owns a module path. -/
def publicName (ctx : Context) (modulePath typeName : String) : Except Fault String :=
  match ctx.names.get? (libraryOf modulePath) with
  | some name => .ok name
  | none => .error (.unknownLibrary (libraryOf modulePath) ctx.library typeName)

def refer (ctx : Context) (modulePath name : String) (kind : ExternalKind) (holdsObjects : Bool) :
    Except Fault Ty :=
  (publicName ctx modulePath name).map fun owner =>
    .external ⟨owner, modulePath, name, kind, false, holdsObjects⟩

/-- Stamp a reference with the public name of its library; a name that is there already must be
that one. -/
def stamp (ctx : Context) (target : External) : Except Fault Ty := do
  let expected ← publicName ctx target.modulePath target.name
  if target.namespaceName ≠ "" ∧ target.namespaceName ≠ expected then
    throw (.disagreement target expected)
  pure (.external { target with namespaceName := expected })

def resolveTy (ctx : Context) : Ty → Except Fault Ty
  | .primitive kind => .ok (.primitive kind)
  | .record path name =>
    if isForeign ctx path then
      refer ctx path name .dataClass (decide ((⟨path, name⟩ : Ident) ∉ ctx.free))
    else .ok (.record path name)
  | .enumeration path name =>
    if isForeign ctx path then
      refer ctx path name .dataClass (decide ((⟨path, name⟩ : Ident) ∉ ctx.free))
    else .ok (.enumeration path name)
  | .object path name =>
    if isForeign ctx path then refer ctx path name .interface true else .ok (.object path name)
  | .callback path name =>
    if isForeign ctx path then .error (.foreignCallback ctx.library path name)
    else .ok (.callback path name)
  | .custom path name builtin =>
    if isForeign ctx path then refer ctx path name .dataClass true
    else (resolveTy ctx builtin).map (.custom path name)
  | .optional inner => (resolveTy ctx inner).map .optional
  | .sequence inner => (resolveTy ctx inner).map .sequence
  | .map key value => do
    let key ← resolveTy ctx key
    let value ← resolveTy ctx value
    pure (.map key value)
  | .external target => stamp ctx target

def resolveTy? (ctx : Context) : Option Ty → Except Fault (Option Ty)
  | none => .ok none
  | some ty => (resolveTy ctx ty).map some

def resolveParam (ctx : Context) (p : Param) : Except Fault Param :=
  (resolveTy ctx p.ty).map fun ty => { p with ty }

def resolveField (ctx : Context) (f : Field) : Except Fault Field :=
  (resolveTy ctx f.ty).map fun ty => { f with ty }

def resolveVariant (ctx : Context) (v : Variant) : Except Fault Variant :=
  (v.fields.mapM (resolveField ctx)).map fun fields => { v with fields }

/-- The types of an item resolved in the order in which they are written. -/
def resolveIn (ctx : Context) : Item → Except Fault Item
  | .function f => do
    let inputs ← f.inputs.mapM (resolveParam ctx)
    let returns ← resolveTy? ctx f.returns
    let throws ← resolveTy? ctx f.throws
    pure (.function { f with inputs, returns, throws })
  | .constructor c => do
    let inputs ← c.inputs.mapM (resolveParam ctx)
    let returns ← resolveTy? ctx c.returns
    let throws ← resolveTy? ctx c.throws
    pure (.constructor { c with inputs, returns, throws })
  | .method m => do
    let inputs ← m.inputs.mapM (resolveParam ctx)
    let returns ← resolveTy? ctx m.returns
    let throws ← resolveTy? ctx m.throws
    pure (.method { m with inputs, returns, throws })
  | .traitMethod m => do
    let inputs ← m.inputs.mapM (resolveParam ctx)
    let returns ← resolveTy? ctx m.returns
    let throws ← resolveTy? ctx m.throws
    pure (.traitMethod { m with inputs, returns, throws })
  | .record r => do
    let fields ← r.fields.mapM (resolveField ctx)
    pure (.record { r with fields })
  | .enumeration e => do
    let variants ← e.variants.mapM (resolveVariant ctx)
    pure (.enumeration { e with variants })
  | .custom c => do
    let builtin ← resolveTy ctx c.builtin
    pure (.custom { c with builtin })
  | .space n => .ok (.space n)
  | .legacy m => .ok (.legacy m)
  | .object o => .ok (.object o)
  | .callback c => .ok (.callback c)

/-- Resolve an item as part of its own library. -/
def resolve (names : Table String String) (free : List Ident) (item : Item) : Except Fault Item :=
  resolveIn ⟨item.library, names, free⟩ item

/-- Disagreeing names are a defect of the metadata that no report describes. -/
def Fault.report : Fault → Except String Diagnostic
  | .unknownLibrary target source typeName => .ok {
      reason := .unknownNamespace
      message := "can't find namespace for library '" ++ target ++ "' referenced from '" ++
        source ++ "'"
      library := target
      typeName := typeName }
  | .foreignCallback library path name => .ok {
      reason := .unsupportedExternal
      message := "external callback interfaces are not supported (" ++ name ++ ")"
      library := library
      typeName := path ++ "::" ++ name }
  | .disagreement target expected => .error
      ("external type " ++ target.modulePath ++ "::" ++ target.name ++
        " already resolved to namespace '" ++ target.namespaceName ++ "', expected '" ++
        expected ++ "'")

end Bindery.Resolution
