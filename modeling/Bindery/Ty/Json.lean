import Bindery.Json.Display
import Bindery.Ty.Basic
/-!
# Types as JSON

The JSON form of a type: an object with its kind and its fields. Reading ignores members it does
not know.
-/
namespace Bindery

/-- What is wrong with the JSON form of a type or an item. -/
inductive Malformed where
  | typeNotObject
  | itemNotObject
  | unknownTypeKind (kind : Json)
  | unknownItemKind (kind : Json)
  | unknownPrimitive (name : String)
  | unknownExternalKind (name : String)
  | badField (owner key : String)
  | badList (owner key : String)
  | badEntry (what : String)
  | incomplete (kind constructor : String) (missing : List String)
  deriving Repr

namespace Malformed

/-- Names in quotes, the last two joined by a word. -/
def nameList : List String → String
  | [] => ""
  | [a] => Text.quoted a
  | [a, b] => Text.quoted a ++ " and " ++ Text.quoted b
  | names =>
    Text.join ", " (names.dropLast.map Text.quoted) ++ ", and " ++
      Text.quoted (names.getLastD "")

def message : Malformed → String
  | typeNotObject => "invalid type encoding"
  | itemNotObject => "metadata item must be a JSON object"
  | unknownTypeKind kind => "unknown type kind '" ++ kind.display ++ "'"
  | unknownItemKind kind => "unknown metadata item kind '" ++ kind.display ++ "'"
  | unknownPrimitive name => "unknown primitive type '" ++ name ++ "'"
  | unknownExternalKind name => "unknown external kind '" ++ name ++ "'"
  | badField owner key => "invalid " ++ owner ++ "." ++ key
  | badList owner key => "invalid " ++ owner ++ "." ++ key ++ " list"
  | badEntry what => "invalid " ++ what ++ " entry"
  | incomplete kind constructor missing =>
    "incomplete " ++ kind ++ " metadata item: " ++ constructor ++ ".__init__() missing " ++
      toString missing.length ++ " required positional argument" ++
      (if missing.length = 1 then "" else "s") ++ ": " ++ nameList missing

end Malformed

namespace Json

abbrev Members := List (String × Json)

/-- A text that must be there. -/
def requireText (members : Members) (owner key : String) : Except Malformed String :=
  match member? members key with
  | some (.str s) => .ok s
  | _ => .error (.badField owner key)

/-- A flag with a default for a missing key. -/
def flagOr (members : Members) (owner key : String) (default : Bool) : Except Malformed Bool :=
  match member? members key with
  | none => .ok default
  | some (.bool b) => .ok b
  | some _ => .error (.badField owner key)

end Json

open Json

namespace Ty

def toJson : Ty → Json
  | primitive kind => .obj [("kind", .str "Primitive"), ("name", .str kind.spelling)]
  | object path name =>
    .obj [("kind", .str "Object"), ("module_path", .str path), ("name", .str name)]
  | record path name =>
    .obj [("kind", .str "Record"), ("module_path", .str path), ("name", .str name)]
  | enumeration path name =>
    .obj [("kind", .str "Enum"), ("module_path", .str path), ("name", .str name)]
  | callback path name =>
    .obj [("kind", .str "CallbackInterface"), ("module_path", .str path), ("name", .str name)]
  | custom path name builtin =>
    .obj [("kind", .str "Custom"), ("module_path", .str path), ("name", .str name),
      ("builtin", builtin.toJson)]
  | optional inner => .obj [("kind", .str "Optional"), ("inner", inner.toJson)]
  | sequence inner => .obj [("kind", .str "Sequence"), ("inner", inner.toJson)]
  | map key value => .obj [("kind", .str "Map"), ("key", key.toJson), ("value", value.toJson)]
  | external target =>
    .obj [("kind", .str "External"),
      ("namespace", .str target.namespaceName),
      ("module_path", .str target.modulePath),
      ("name", .str target.name),
      ("external_kind", .str target.kind.spelling),
      ("tagged", .bool target.tagged),
      ("contains_object_references", .bool target.holdsObjects)]

/-- The constructor for a kind that has a module path and a name only. -/
def plain? (kind : String) : Option (String → String → Ty) :=
  if kind = "Object" then some object
  else if kind = "Record" then some record
  else if kind = "Enum" then some enumeration
  else if kind = "CallbackInterface" then some callback
  else none

def readPrimitive (members : Members) : Except Malformed Ty := do
  let name ← requireText members "Primitive" "name"
  match Primitive.ofSpelling? name with
  | some kind => pure (primitive kind)
  | none => throw (.unknownPrimitive name)

def readExternal (members : Members) : Except Malformed Ty := do
  let spelling ← requireText members "External" "external_kind"
  match ExternalKind.ofSpelling? spelling with
  | none => throw (.unknownExternalKind spelling)
  | some kind =>
    let namespaceName ← requireText members "External" "namespace"
    let modulePath ← requireText members "External" "module_path"
    let name ← requireText members "External" "name"
    let tagged ← flagOr members "External" "tagged" false
    let holdsObjects ← flagOr members "External" "contains_object_references" true
    pure (external ⟨namespaceName, modulePath, name, kind, tagged, holdsObjects⟩)

def readPlain (members : Members) : Except Malformed Ty :=
  match memberOrNull members "kind" with
  | .str kind =>
    match plain? kind with
    | some make => do
      let modulePath ← requireText members kind "module_path"
      let name ← requireText members kind "name"
      pure (make modulePath name)
    | none => .error (.unknownTypeKind (.str kind))
  | kind => .error (.unknownTypeKind kind)

def isKind (members : Members) (kind : String) : Bool :=
  match member? members "kind" with
  | some (.str s) => decide (s = kind)
  | _ => false

mutual

def ofJson : Json → Except Malformed Ty
  | .obj members =>
    if isKind members "Primitive" then readPrimitive members
    else if isKind members "Optional" then do
      let inner ← ofMember "inner" members
      pure (optional inner)
    else if isKind members "Sequence" then do
      let inner ← ofMember "inner" members
      pure (sequence inner)
    else if isKind members "Map" then do
      let key ← ofMember "key" members
      let value ← ofMember "value" members
      pure (map key value)
    else if isKind members "Custom" then do
      let modulePath ← requireText members "Custom" "module_path"
      let name ← requireText members "Custom" "name"
      let builtin ← ofMember "builtin" members
      pure (custom modulePath name builtin)
    else if isKind members "External" then readExternal members
    else readPlain members
  | _ => .error .typeNotObject

/-- The type under a key. -/
def ofMember (key : String) : List (String × Json) → Except Malformed Ty
  | [] => .error .typeNotObject
  | (k, value) :: rest => if k = key then ofJson value else ofMember key rest

end

end Ty
end Bindery
