import Bindery.Config.Basic
import Bindery.Text.Quoted
import Bindery.Text.Utf8
/-!
# Names, annotations and values in a stub

How names of the interface, types and default values are written in a Python stub.
-/
namespace Bindery.Stub

def keywords : List String := [
  "False", "None", "True", "and", "as", "assert", "async", "await", "break", "class", "continue",
  "def", "del", "elif", "else", "except", "finally", "for", "from", "global", "if", "import", "in",
  "is", "lambda", "nonlocal", "not", "or", "pass", "raise", "return", "try", "while", "with",
  "yield"]

/-- A name that is no keyword. -/
def ident (name : String) : String := if name ∈ keywords then name ++ "_" else name

/-- The annotation of a type. A declared type goes by its generated name. -/
inductive Annotation where
  | primitive (kind : Primitive)
  | named (name : String)
  | optional (inner : Annotation)
  | sequence (inner : Annotation)
  | map (key value : Annotation)
  deriving DecidableEq, Repr

def primitiveText : Primitive → String
  | .u8 | .i8 | .u16 | .i16 | .u32 | .i32 | .u64 | .i64 => "int"
  | .f32 | .f64 => "float"
  | .boolean => "bool"
  | .string => "str"
  | .bytes => "bytes"
  | .timestamp => "datetime.datetime"
  | .duration => "datetime.timedelta"

namespace Annotation

def ofTy (s : Section) : Ty → Annotation
  | .primitive kind => primitive kind
  | .optional inner => optional (ofTy s inner)
  | .sequence inner => sequence (ofTy s inner)
  | .map key value => map (ofTy s key) (ofTy s value)
  | .object _ name | .record _ name | .enumeration _ name | .callback _ name
  | .custom _ name _ => named (s.renamed name)
  | .external target => named (s.renamed target.name)

def text : Annotation → String
  | primitive kind => primitiveText kind
  | named name => name
  | optional inner => "typing.Optional[" ++ inner.text ++ "]"
  | sequence inner => "typing.List[" ++ inner.text ++ "]"
  | map key value => "typing.Dict[" ++ key.text ++ ", " ++ value.text ++ "]"

end Annotation

/-- A default value. -/
inductive Value where
  | missing
  | flag (value : Bool)
  | text (value : String)
  | bytes (value : String)
  /-- A number, or whatever else stands for itself. -/
  | plain (spelling : String)
  | variant (enumeration name : String)
  deriving DecidableEq, Repr

namespace Value

/-- The type of a field without the outermost option. -/
def requiredTy : Ty → Ty
  | .optional inner => inner
  | ty => ty

/-- The default of a field, read by the type of the field. A bare name on a field of an enumeration
is one of its variants. -/
def ofDefault (ty : Ty) (value : String) : Value :=
  if value = "null" then missing
  else match requiredTy ty with
    | .primitive .boolean =>
      if value = "true" then flag true
      else if value = "false" then flag false
      else plain value
    | .primitive .string => text value
    | .primitive .bytes => bytes value
    | .primitive _ => plain value
    | .enumeration _ name => variant name value
    | _ => text value

def spelling : Value → String
  | missing => "None"
  | flag b => if b then "True" else "False"
  | text value => Text.quoted value
  | bytes value => Text.quotedBytes (Utf8.encode value)
  | plain value => value
  | variant enumeration name => enumeration ++ "." ++ ident name

end Value

def optionalText : Option String → String
  | none => "None"
  | some s => Text.quoted s

end Bindery.Stub
