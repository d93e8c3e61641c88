import Bindery.Interface.Basic
/-!
# Questions to an interface

What a catalogue holds, in canonical order, and whether a type can hold an object handle.
-/
namespace Bindery.Interface

def namespaceName (i : Interface) : Except Fault String :=
  match i.space with
  | some name => .ok name
  | none => .error (i.fault .noNamespace)

/-- The definitions of all tables, table after table. -/
def items (i : Interface) : List Item :=
  i.functions.values.map Item.function ++ i.records.values.map Item.record ++
    i.enumerations.values.map Item.enumeration ++ i.objects.values.map Item.object ++
    i.callbacks.values.map Item.callback ++ i.customs.values.map Item.custom ++
    i.constructors.values.map Item.constructor ++ i.methods.values.map Item.method ++
    i.traitMethods.values.map Item.traitMethod

/-- Every definition, in canonical order. -/
def sortedItems (i : Interface) : List Item := Item.sorted i.items

/-- The entries of an owner. -/
def ownedBy (owner : String) (members : Table (String × String) α) : List ((String × String) × α) :=
  members.entries.filter fun entry => entry.1.1 = owner

def constructorsOf (i : Interface) (owner : String) : List Constructor :=
  (Order.sortBy (Order.on Prod.fst Order.comparePair) (ownedBy owner i.constructors)).map Prod.snd

def methodsOf (i : Interface) (owner : String) : List Method :=
  (Order.sortBy (Order.on Prod.fst Order.comparePair) (ownedBy owner i.methods)).map Prod.snd

/-- The methods of a trait or a callback interface, by index and name. -/
def traitMethodsOf (i : Interface) (owner : String) : List TraitMethod :=
  Order.sortBy
    (Order.both (Order.on TraitMethod.index Order.compareInt)
      (Order.on TraitMethod.name Order.compareText))
    ((ownedBy owner i.traitMethods).map Prod.snd)

/-- Every type that occurs in a field or a signature, with the types inside it. -/
def types (i : Interface) : List Ty :=
  i.sortedItems.flatMap fun item => item.types.flatMap Ty.occurrences

def external? : Ty → Option External
  | .external e => some e
  | _ => none

def compareExternals : External → External → Ordering :=
  Order.both (Order.on External.namespaceName Order.compareText)
    (Order.both (Order.on External.modulePath Order.compareText)
      (Order.both (Order.on External.name Order.compareText)
        (Order.on (fun e => (Ty.external e).term) Order.compareChars)))

/-- The references to other libraries, each once. -/
def externals (i : Interface) : List External :=
  Order.sortBy compareExternals (Order.distinct (i.types.filterMap external?))

/-- The public names of the libraries that are referred to. -/
def externalNamespaces (i : Interface) : List String :=
  Order.sortTexts (Order.distinct (i.externals.map External.namespaceName))

/-- The records and enumerations of the catalogue that can hold no handle. The stamps on references
come from the whole artifact and are trusted. -/
def computeFree (i : Interface) : List Ident := Reachability.freeIdents i.sortedItems true

/-- The remembered reference-free set, or a fresh one. -/
def freeIdents (i : Interface) : List Ident := i.free.getD i.computeFree

/-- Whether one type occurrence can hold a handle. -/
def occurrenceHolds (free : List Ident) : Ty → Bool
  | .object _ _ => true
  | .external e => e.holdsObjects
  | .record path name | .enumeration path name => decide ((⟨path, name⟩ : Ident) ∉ free)
  | _ => false

/-- Whether a value of a type can hold an object handle. -/
def holdsObjects (i : Interface) (ty : Ty) : Bool :=
  ty.occurrences.any (occurrenceHolds i.freeIdents)

/-- Ask and remember the reference-free set. -/
def askHoldsObjects (i : Interface) (ty : Ty) : Bool × Interface :=
  (i.holdsObjects ty, { i with free := some i.freeIdents })

def recordTy (r : Record) : Ty := .record r.modulePath r.name

def enumerationTy (e : Enumeration) : Ty := .enumeration e.modulePath e.name

/-- The type to ask about for an item: a record is asked about as such, and whatever else stands in
a module as an enumeration of its own name, without that of an owner. -/
def itemTy? : Item → Option Ty
  | .space _ | .legacy _ => none
  | .record r => some (recordTy r)
  | .constructor c => some (.enumeration c.modulePath c.name)
  | .method m => some (.enumeration m.modulePath m.name)
  | .traitMethod m => some (.enumeration m.modulePath m.name)
  | item => some (.enumeration item.modulePath item.name)

def term (i : Interface) : String :=
  String.ofList (Term.call "ComponentInterface" [
    ("crate_name", Term.text i.library), ("namespace", Term.orNone Term.text i.space)])

end Bindery.Interface
