import Bindery.Legacy.Token
/-!
# Syntax of a legacy interface file

What a file says before its names are resolved. Words and literals keep their marks, and so does
every definition and callable; an empty list of attributes stands for no brackets.
-/
namespace Bindery.Legacy

structure Word where
  text : String
  mark : Mark
  deriving DecidableEq, Repr

/-- A string literal by what stands between its quotes. -/
structure Literal where
  content : List Char
  mark : Mark
  deriving DecidableEq, Repr

inductive AttributeValue where
  | word (w : Word)
  | text (l : Literal)
  deriving DecidableEq, Repr

structure Attribute where
  name : Word
  value : Option AttributeValue
  deriving DecidableEq, Repr

inductive TypeExpr where
  | named (w : Word)
  | sequence (inner : TypeExpr)
  | map (key value : TypeExpr)
  | optional (inner : TypeExpr)
  deriving DecidableEq, Repr

structure ParamDecl where
  type : TypeExpr
  name : Word
  deriving DecidableEq, Repr

/-- A function or a method; one without a result type returns nothing. -/
structure FunctionDecl where
  mark : Mark
  attributes : List Attribute
  result : Option TypeExpr
  name : Word
  params : List ParamDecl
  deriving DecidableEq, Repr

structure ConstructorDecl where
  mark : Mark
  attributes : List Attribute
  params : List ParamDecl
  deriving DecidableEq, Repr

structure VariantDecl where
  name : Word
  params : List ParamDecl
  deriving DecidableEq, Repr

inductive MemberDecl where
  | constructor (c : ConstructorDecl)
  | function (f : FunctionDecl)
  | variant (v : VariantDecl)
  deriving DecidableEq, Repr

inductive DefaultValue where
  | text (l : Literal)
  | number (spelling : String)
  | word (w : Word)
  deriving DecidableEq, Repr

structure FieldDecl where
  attributes : List Attribute
  type : TypeExpr
  name : Word
  default : Option DefaultValue
  deriving DecidableEq, Repr

inductive TypedefTarget where
  | foreign
  | type (t : TypeExpr)
  deriving DecidableEq, Repr

/-- What a definition defines. -/
inductive Body where
  | space (functions : List FunctionDecl)
  | dictionary (fields : List FieldDecl)
  | enumeration (values : List Literal) (trailingComma : Bool)
  | interface (members : List MemberDecl)
  | callback (functions : List FunctionDecl)
  | typedef (target : TypedefTarget)
  deriving DecidableEq, Repr

structure Definition where
  mark : Mark
  attributes : List Attribute
  name : Word
  body : Body
  deriving DecidableEq, Repr

abbrev File := List Definition

def MemberDecl.constructor? : MemberDecl → Option ConstructorDecl
  | constructor c => some c
  | _ => none

def MemberDecl.function? : MemberDecl → Option FunctionDecl
  | function f => some f
  | _ => none

def MemberDecl.variant? : MemberDecl → Option VariantDecl
  | variant v => some v
  | _ => none

end Bindery.Legacy
