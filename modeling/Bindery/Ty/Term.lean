import Bindery.Text.Quoted
import Bindery.Ty.Basic
/-!
# Terms of types

The full text of a type as a nested constructor call with every field named. Two types have one
term only if they are equal, so terms serve as the last key of every canonical order.
-/
namespace Bindery

namespace Term

/-- Arguments by name, parted by commas. -/
def arguments : List (String × List Char) → List Char
  | [] => []
  | [(key, value)] => key.toList ++ '=' :: value
  | (key, value) :: rest => key.toList ++ '=' :: value ++ ',' :: ' ' :: arguments rest

def call (constructor : String) (fields : List (String × List Char)) : List Char :=
  constructor.toList ++ '(' :: arguments fields ++ [')']

def text (s : String) : List Char := Text.quotedChars s.toList

def flag (b : Bool) : List Char := if b then "True".toList else "False".toList

def orNone (f : α → List Char) : Option α → List Char
  | none => "None".toList
  | some a => f a

/-- The entries of a tuple, each after the first behind a comma. -/
def moreEntries : List (List Char) → List Char
  | [] => []
  | entry :: rest => ',' :: ' ' :: entry ++ moreEntries rest

/-- A tuple; one entry alone is followed by a comma. -/
def tuple : List (List Char) → List Char
  | [] => ['(', ')']
  | [entry] => '(' :: entry ++ [',', ')']
  | entry :: rest => '(' :: entry ++ moreEntries rest ++ [')']

end Term

open Term

/-- The name of a primitive in terms. -/
def Primitive.constant : Primitive → String
  | .u8 => "UINT8"
  | .i8 => "INT8"
  | .u16 => "UINT16"
  | .i16 => "INT16"
  | .u32 => "UINT32"
  | .i32 => "INT32"
  | .u64 => "UINT64"
  | .i64 => "INT64"
  | .f32 => "FLOAT32"
  | .f64 => "FLOAT64"
  | .boolean => "BOOLEAN"
  | .string => "STRING"
  | .bytes => "BYTES"
  | .timestamp => "TIMESTAMP"
  | .duration => "DURATION"

def ExternalKind.constant : ExternalKind → String
  | .dataClass => "DATA_CLASS"
  | .interface => "INTERFACE"

/-- A constant of an enumeration with its spelling. -/
def Term.constant (enumeration name spelling : String) : List Char :=
  '<' :: enumeration.toList ++ '.' :: name.toList ++ ':' :: ' ' :: Term.text spelling ++ ['>']

namespace Ty

def term : Ty → List Char
  | primitive kind =>
    call "PrimitiveType" [("kind", Term.constant "PrimitiveKind" kind.constant kind.spelling)]
  | object path name => call "ObjectType" [("module_path", text path), ("name", text name)]
  | record path name => call "RecordType" [("module_path", text path), ("name", text name)]
  | enumeration path name => call "EnumType" [("module_path", text path), ("name", text name)]
  | callback path name =>
    call "CallbackInterfaceType" [("module_path", text path), ("name", text name)]
  | custom path name builtin =>
    call "CustomType" [("module_path", text path), ("name", text name), ("builtin", builtin.term)]
  | optional inner => call "OptionalType" [("inner", inner.term)]
  | sequence inner => call "SequenceType" [("inner", inner.term)]
  | map key value => call "MapType" [("key", key.term), ("value", value.term)]
  | external target =>
    call "ExternalType" [
      ("namespace", text target.namespaceName),
      ("module_path", text target.modulePath),
      ("name", text target.name),
      ("kind", Term.constant "ExternalKind" target.kind.constant target.kind.spelling),
      ("tagged", flag target.tagged),
      ("contains_object_references", flag target.holdsObjects)]

def termText (t : Ty) : String := String.ofList t.term

end Ty
end Bindery
