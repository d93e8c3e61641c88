import Bindery.Stub.Expressions
import Bindery.Stub.Lines
/-!
# Statements of a stub

The statements that a stub is made of, and the lines of each. A class is never left without a body,
and a statement brings the empty lines in front of it with it.
-/
namespace Bindery.Stub

/-- An annotated name in the body of a class. -/
structure Attribute where
  name : String
  annotation : Annotation
  default : Option Value := none
  deriving DecidableEq, Repr

/-- What a callable is called on. -/
inductive Receiver where
  | nothing | object | ownClass
  deriving DecidableEq, Repr

structure Callable where
  receiver : Receiver
  isAsync : Bool := false
  name : String
  params : List (String × Annotation)
  result : Option Annotation
  docs : Option String
  raises : Option Annotation
  deriving DecidableEq, Repr

inductive Statement where
  | comment (text : String)
  | moduleDocs (text : Option String)
  | standardImports
  /-- The names that are imported from each package. -/
  | packageImports (packages : List (String × List String))
  | constants (space : String) (cdylib : Option String)
  | typeAlias (name : String) (value : Annotation)
  /-- An enumeration that is a plain list of names. -/
  | nameClass (name : String) (docs : Option String) (members : List String)
  | dataClass (hashable : Bool) (name : String) (base : Option String) (docs : Option String)
      (attributes : List Attribute)
  /-- The base class of the variants of an enumeration. -/
  | baseClass (isError : Bool) (name : String) (docs : Option String)
  /-- Make a class an attribute of another one. -/
  | attach (owner member target : String)
  | memberClass (isProtocol : Bool) (name : String) (docs : Option String)
      (members : List Callable)
  | function (c : Callable)
  deriving DecidableEq, Repr

def Attribute.line (a : Attribute) : String :=
  let suffix := match a.default with
    | some value => " = " ++ value.spelling
    | none => ""
  Stub.line 1 (ident a.name ++ ": " ++ a.annotation.text ++ suffix)

namespace Callable

/-- The docstring of a callable, with the error that it raises. -/
def docText (c : Callable) : Option String :=
  match c.raises with
  | none => c.docs
  | some error =>
    let raises := "Raises: " ++ error.text
    if c.docs.getD "" = "" then some raises else some (c.docs.getD "" ++ "\n\n" ++ raises)

def receiverTexts : Receiver → List String
  | .nothing => []
  | .object => ["self"]
  | .ownClass => ["cls"]

def signature (c : Callable) : String :=
  let params := c.params.map fun p => ident p.1 ++ ": " ++ p.2.text
  let result := match c.result with
    | some annotation => annotation.text
    | none => "None"
  (if c.isAsync then "async def " else "def ") ++ ident c.name ++ "(" ++
    Text.join ", " (receiverTexts c.receiver ++ params) ++ ") -> " ++ result ++ ":"

def lines (depth : Nat) (c : Callable) : List String :=
  (if c.receiver = .ownClass then [line depth "@classmethod"] else []) ++
    [line depth c.signature] ++ docstring (depth + 1) c.docText ++ [line (depth + 1) "..."]

end Callable

/-- Members with an empty line between them. -/
def spaced : List (List String) → List String
  | [] => []
  | [member] => member
  | member :: rest => member ++ blank :: spaced rest

def passLine : String := line 1 "pass"

/-- A docstring and what follows it at once. -/
def classBody (docs : Option String) (body : List String) : List String :=
  if body = [] ∧ docstring 1 docs = [] then [passLine] else docstring 1 docs ++ body

/-- A docstring and members, all of them with empty lines between them. -/
def memberBody (docs : Option String) (members : List (List String)) : List String :=
  if members = [] then classBody docs []
  else if docstring 1 docs = [] then spaced members
  else docstring 1 docs ++ blank :: spaced members

def classLine (name : String) (base : Option String) : String :=
  match base with
  | none => "class " ++ name ++ ":"
  | some base => "class " ++ name ++ "(" ++ base ++ "):"

def decorator (hashable : Bool) : String :=
  if hashable then "@dataclass(frozen=True)" else "@dataclass"

def importLine (package : String × List String) : String :=
  "from " ++ package.1 ++ " import " ++ Text.join ", " package.2

namespace Statement

def lines : Statement → List String
  | comment text => ["# " ++ text]
  | moduleDocs text => docstring 0 text
  | standardImports =>
    ["from __future__ import annotations", blank, "import datetime", "import enum",
      "import typing", "from dataclasses import dataclass"]
  | packageImports packages => if packages = [] then [] else blank :: packages.map importLine
  | constants space cdylib =>
    [blank, "NAMESPACE = " ++ Text.quoted space, "CDYLIB_NAME = " ++ optionalText cdylib]
  | typeAlias name value => [blank, name ++ " = " ++ value.text]
  | nameClass name docs members =>
    [blank, blank, classLine name "enum.Enum"] ++
      classBody docs (members.map fun m => line 1 (ident m ++ " = " ++ Text.quoted m))
  | dataClass hashable name base docs attributes =>
    [blank, blank, decorator hashable, classLine name base] ++
      classBody docs (attributes.map Attribute.line)
  | baseClass isError name docs =>
    [blank, blank, classLine name (if isError then some "Exception" else none)] ++
      classBody docs []
  | attach owner member target =>
    [blank, blank, owner ++ "." ++ ident member ++ " = " ++ target]
  | memberClass isProtocol name docs members =>
    [blank, blank, classLine name (if isProtocol then some "typing.Protocol" else none)] ++
      memberBody docs (members.map (Callable.lines 1))
  | function c => blank :: blank :: c.lines 0

end Statement
end Bindery.Stub
