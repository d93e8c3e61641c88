import Bindery.Legacy.Fault
/-!
# Names in a legacy interface file

What the definitions of a file declare, and what the types they mention stand for. A file declares
its names first, whatever their order; only a custom type has to stand behind the custom types that
it is built from.
-/
namespace Bindery.Legacy

def decodeLiteral (l : Literal) : Except Fault String :=
  (Escape.decode l.content).mapError fun fault => .badEscape fault l.mark

/-- The attributes of a definition by name; of two with one name the last counts. -/
abbrev Notes := Table String (Option String)

def attributeText : Option AttributeValue → Except Fault (Option String)
  | none => .ok none
  | some (.word w) => .ok (some w.text)
  | some (.text l) => (decodeLiteral l).map some

def note (notes : Notes) (a : Attribute) : Except Fault Notes :=
  (attributeText a.value).map (notes.insert a.name.text)

def notesOf (attributes : List Attribute) : Except Fault Notes := attributes.foldlM note .empty

/-- The value of an attribute that is given and not empty. -/
def filled? (value : Option String) : Option String :=
  match value with
  | some "" => none
  | value => value

/-- An interface that stands for an enumeration. -/
def Notes.isEnumeration (notes : Notes) : Bool := notes.contains "Enum" || notes.contains "Error"

/-- A typedef that stands for a type of another library. -/
def Notes.isExternal (notes : Notes) : Bool :=
  notes.contains "External" || notes.contains "ExternalInterface"

/-- The declared types of a file by name. -/
abbrev Declared := Table String Ty

/-- Declare a name that is neither declared nor that of a primitive. -/
def declare (declared : Declared) (name : Word) (ty : Ty) : Except Fault Declared :=
  if declared.contains name.text || (Primitive.ofSpelling? name.text).isSome then
    .error (.duplicateName name.text name.mark)
  else .ok (declared.insert name.text ty)

/-- The type of another library that a typedef declares. -/
def externalTy (notes : Notes) (name : Word) : TypedefTarget → Except Fault Ty
  | .type _ => .error (.notForeign name.text name.mark)
  | .foreign =>
    let (value, kind) := match notes.get? "External" with
      | some value => (value, ExternalKind.dataClass)
      | none => ((notes.get? "ExternalInterface").getD none, ExternalKind.interface)
    match filled? value with
    | none => .error (.noLibrary name.text name.mark)
    | some library => .ok (.external ⟨"", library, name.text, kind, false, true⟩)

/-- What the definitions declare before custom types are looked at. -/
structure Names where
  space : Option String := none
  declared : Declared := .empty
  deriving DecidableEq

/-- The type that a definition declares by itself. -/
def declaredTy? (library : String) (notes : Notes) (name : Word) : Body → Except Fault (Option Ty)
  | .space _ => .ok none
  | .dictionary _ => .ok (some (.record library name.text))
  | .enumeration _ _ => .ok (some (.enumeration library name.text))
  | .interface _ =>
    .ok (some (if notes.isEnumeration then .enumeration library name.text
      else .object library name.text))
  | .callback _ => .ok (some (.callback library name.text))
  | .typedef target =>
    if notes.isExternal then (externalTy notes name target).map some else .ok none

def collectTy (library : String) (names : Names) (d : Definition) : Except Fault Names := do
  let notes ← notesOf d.attributes
  match ← declaredTy? library notes d.name d.body with
  | none => pure names
  | some ty =>
    let declared ← declare names.declared d.name ty
    pure { names with declared }

def collectOne (library : String) (names : Names) (d : Definition) : Except Fault Names :=
  match d.body with
  | .space _ =>
    match names.space with
    | some _ => .error (.secondNamespace d.mark)
    | none => .ok { names with space := some d.name.text }
  | _ => collectTy library names d

/-- The names that a file declares, and its one namespace. -/
def collect (library : String) (file : File) : Except Fault (String × Declared) := do
  let names ← file.foldlM (collectOne library) {}
  match names.space with
  | none => throw .noNamespace
  | some space => pure (space, names.declared)

/-- What a type expression stands for. -/
def tyOf (declared : Declared) : TypeExpr → Except Fault Ty
  | .named w =>
    match Primitive.ofSpelling? w.text with
    | some kind => .ok (.primitive kind)
    | none =>
      match declared.get? w.text with
      | some ty => .ok ty
      | none => .error (.unknownType w.text w.mark)
  | .sequence inner => (tyOf declared inner).map .sequence
  | .optional inner => (tyOf declared inner).map .optional
  | .map key value => do
    let key ← tyOf declared key
    let value ← tyOf declared value
    pure (.map key value)

end Bindery.Legacy
