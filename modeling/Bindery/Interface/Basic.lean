import Bindery.Group.Basic
import Bindery.Json.Printer
/-!
# Interfaces

The catalogue of the public interface of one library: nine tables of definitions, and one of the
kinds of declared names. Adding the same definition twice changes nothing; two different definitions
under one key are a conflict. A failed addition leaves the tables as they are.
-/
namespace Bindery

/-- The five kinds of declared types. Their names share one scope. -/
inductive DeclKind where
  | record | enumeration | object | callback | custom
  deriving DecidableEq, Repr

def DeclKind.label : DeclKind → String
  | record => "record"
  | enumeration => "enum"
  | object => "object"
  | callback => "callback interface"
  | custom => "custom type"

/-- The catalogue of one library. `kinds` has the kind under which each name is declared, and `free`
remembers the reference-free records and enumerations until a declaration of a type is added. -/
structure Interface where
  library : String
  space : Option String := none
  docstring : Option String := none
  functions : Table String Function := .empty
  records : Table String Record := .empty
  enumerations : Table String Enumeration := .empty
  objects : Table String Object := .empty
  callbacks : Table String CallbackInterface := .empty
  customs : Table String CustomType := .empty
  constructors : Table (String × String) Constructor := .empty
  methods : Table (String × String) Method := .empty
  traitMethods : Table (String × String) TraitMethod := .empty
  kinds : Table String DeclKind := .empty
  free : Option (List Ident) := none
  deriving DecidableEq

namespace Interface

inductive Problem where
  | foreignGroup (library : String)
  | namespaceMismatch (known found : String)
  | kindConflict (name : String) (known declared : DeclKind)
  | declarationConflict (kind : DeclKind) (name : String)
  | functionConflict (name : String)
  | memberConflict (item : Item) (owner : String)
  | ownerless (what owner : String)
  | noNamespace
  /-- What it holds cannot be written as JSON. -/
  | unwritable (cause : Json.Unwritable)
  deriving DecidableEq, Repr

/-- A problem of the interface of a library. -/
structure Fault where
  library : String
  problem : Problem
  deriving DecidableEq, Repr

/-- The report of a problem. That something cannot be written has none. -/
def Fault.report (f : Fault) : Except String Diagnostic :=
  match f.problem with
  | .unwritable cause => .error cause.message
  | .foreignGroup library => .ok {
      reason := .interface
      message := "metadata group for library '" ++ library ++ "' added to '" ++ f.library ++ "'"
      library := f.library }
  | .namespaceMismatch known found => .ok {
      reason := .interface
      message := "namespace mismatch: '" ++ known ++ "' vs '" ++ found ++ "'"
      library := f.library }
  | .kindConflict name known declared => .ok {
      reason := .interface
      message := "'" ++ name ++ "' declared both as " ++ known.label ++ " and " ++ declared.label
      library := f.library
      typeName := name }
  | .declarationConflict kind name => .ok {
      reason := .interface
      message := "conflicting definitions of " ++ kind.label ++ " '" ++ name ++ "'"
      library := f.library
      typeName := name }
  | .functionConflict name => .ok {
      reason := .interface
      message := "conflicting definitions of function '" ++ name ++ "'"
      library := f.library }
  | .memberConflict item owner => .ok {
      reason := .interface
      message := "conflicting definitions of " ++ item.describe
      library := f.library
      typeName := owner }
  | .ownerless what owner => .ok {
      reason := .interface
      message := what ++ " '" ++ owner ++ "'"
      library := f.library
      typeName := owner }
  | .noNamespace => .ok {
      reason := .interface
      message := "component interface has no namespace"
      library := f.library }

def empty (library : String) : Interface := { library := library }

def fault (i : Interface) (problem : Problem) : Fault := ⟨i.library, problem⟩

/-- Enter a definition under a key that is free or holds the same definition. -/
def enter [DecidableEq κ] [DecidableEq α] (table : Table κ α) (key : κ) (value : α)
    (conflict : Fault) : Except Fault (Table κ α) :=
  match table.get? key with
  | none => .ok (table.insert key value)
  | some known => if known = value then .ok table else .error conflict

/-- Enter the declaration of a type; its name must not be declared under another kind. -/
def declare [DecidableEq α] (i : Interface) (table : Table String α) (kind : DeclKind)
    (name : String) (value : α) : Except Fault (Table String α) :=
  match i.kinds.get? name with
  | some known =>
    if known = kind then enter table name value (i.fault (.declarationConflict kind name))
    else .error (i.fault (.kindConflict name known kind))
  | none => enter table name value (i.fault (.declarationConflict kind name))

def addItem (i : Interface) : Item → Except Fault Interface
  | .space _ => .ok i
  | .legacy _ => .ok i
  | .record r => do
    let records ← i.declare i.records .record r.name r
    pure { i with records, kinds := i.kinds.insert r.name .record, free := none }
  | .enumeration e => do
    let enumerations ← i.declare i.enumerations .enumeration e.name e
    pure { i with enumerations, kinds := i.kinds.insert e.name .enumeration, free := none }
  | .object o => do
    let objects ← i.declare i.objects .object o.name o
    pure { i with objects, kinds := i.kinds.insert o.name .object, free := none }
  | .callback c => do
    let callbacks ← i.declare i.callbacks .callback c.name c
    pure { i with callbacks, kinds := i.kinds.insert c.name .callback, free := none }
  | .custom c => do
    let customs ← i.declare i.customs .custom c.name c
    pure { i with customs, kinds := i.kinds.insert c.name .custom, free := none }
  | .function f => do
    let functions ← enter i.functions f.name f (i.fault (.functionConflict f.name))
    pure { i with functions }
  | .constructor c =>
    if i.objects.contains c.owner then do
      let constructors ← enter i.constructors (c.owner, c.name) c
        (i.fault (.memberConflict (.constructor c) c.owner))
      pure { i with constructors }
    else .error (i.fault (.ownerless "constructor for unknown object" c.owner))
  | .method m =>
    if i.objects.contains m.owner then do
      let methods ← enter i.methods (m.owner, m.name) m
        (i.fault (.memberConflict (.method m) m.owner))
      pure { i with methods }
    else .error (i.fault (.ownerless "method for unknown object" m.owner))
  | .traitMethod m =>
    if i.objects.contains m.owner || i.callbacks.contains m.owner then do
      let traitMethods ← enter i.traitMethods (m.owner, m.name) m
        (i.fault (.memberConflict (.traitMethod m) m.owner))
      pure { i with traitMethods }
    else .error (i.fault (.ownerless "trait method for unknown trait" m.owner))

/-- Add items up to the first one that fails, and keep what was added before it. -/
def addItems (i : Interface) : List Item → Interface × Except Fault Unit
  | [] => (i, .ok ())
  | item :: rest =>
    match i.addItem item with
    | .ok added => added.addItems rest
    | .error fault => (i, .error fault)

def setNamespace (i : Interface) (name : String) : Except Fault Interface :=
  match i.space with
  | none => .ok { i with space := some name }
  | some known =>
    if known = name then .ok i else .error (i.fault (.namespaceMismatch known name))

/-- Take a docstring unless there is one that is not empty. -/
def offerDocstring (i : Interface) (docstring : Option String) : Interface :=
  if docstring.getD "" ≠ "" ∧ i.docstring.getD "" = "" then { i with docstring } else i

/-- Add the items of a group of this library in canonical order, which puts declarations before
their members. -/
def addGroup (i : Interface) (group : Group) : Interface × Except Fault Unit :=
  if group.library ≠ i.library then (i, .error (i.fault (.foreignGroup group.library)))
  else match i.setNamespace group.space.name with
    | .error fault => (i, .error fault)
    | .ok named => (named.offerDocstring group.docstring).addItems group.sortedItems

/-- Add groups up to the first one that fails. -/
def addGroups (i : Interface) : List Group → Except Fault Interface
  | [] => .ok i
  | group :: rest =>
    match i.addGroup group with
    | (added, .ok ()) => added.addGroups rest
    | (_, .error fault) => .error fault

end Interface
end Bindery
