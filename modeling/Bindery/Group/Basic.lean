import Bindery.Group.Resolution
import Bindery.Item.Order
import Bindery.Reachability
/-!
# Groups

The items of an artifact, partitioned by the library that owns them. Each library that declares a
public name or a legacy file has a group. An item joins the group of its library with its foreign
types resolved, and an item that is there already is refused.
-/
namespace Bindery

/-- The items of one library, each once, in the order in which they came. -/
structure Group where
  space : Namespace
  docstring : Option String := none
  items : List Item := []
  nodup : items.Nodup := by exact List.nodup_nil
  deriving DecidableEq

namespace Group

inductive Fault where
  | conflictingNames (library first second : String)
  | unknownLibrary (item : Item)
  | duplicate (library : String) (item : Item)
  | resolution (fault : Resolution.Fault)
  deriving DecidableEq, Repr

def Fault.report : Fault → Except String Diagnostic
  | .conflictingNames library first second => .ok {
      reason := .unknownNamespace
      message := "conflicting namespace names '" ++ first ++ "' and '" ++ second ++
        "' declared for library '" ++ library ++ "'"
      library := library }
  | .unknownLibrary item => .ok {
      reason := .unknownNamespace
      message := "unknown namespace for " ++ item.describe
      library := item.library }
  | .duplicate library item => .ok {
      reason := .duplicateItem
      message := "duplicate metadata item: " ++ item.describe
      library := library }
  | .resolution fault => fault.report

def library (g : Group) : String := g.space.library

def empty (space : Namespace) : Group := ⟨space, none, [], List.nodup_nil⟩

theorem nodup_append_new {items : List Item} {item : Item} (h : items.Nodup)
    (absent : item ∉ items) : (items ++ [item]).Nodup := by
  refine List.nodup_append.2 ⟨h, by simp, ?_⟩
  intro a ha b hb e
  simp only [List.mem_singleton] at hb
  exact absent (hb ▸ e ▸ ha)

/-- Add an item that is not there yet. -/
def add (g : Group) (item : Item) : Except Fault Group :=
  if h : item ∈ g.items then .error (.duplicate g.library item)
  else .ok ⟨g.space, g.docstring, g.items ++ [item], nodup_append_new g.nodup h⟩

def addAll (g : Group) (items : List Item) : Except Fault Group := items.foldlM add g

def sortedItems (g : Group) : List Item := Item.sorted g.items

def legacyMarkers (g : Group) : List LegacyMarker := g.sortedItems.filterMap Item.legacyMarker?

end Group

/-- Groups by library. -/
abbrev GroupMap := Table String Group

namespace GroupMap

/-- The public names of the libraries. -/
def names (groups : GroupMap) : Table String String := groups.map fun g => g.space.name

/-- Declare the public name of a library, which must not have another one. -/
def register (groups : GroupMap) (space : Namespace) : Except Group.Fault GroupMap :=
  match groups.get? space.library with
  | none => .ok (groups.insert space.library (Group.empty space))
  | some known =>
    if known.space.name = space.name then .ok groups
    else .error (.conflictingNames space.library known.space.name space.name)

/-- The name that an item declares: a namespace item, or a legacy marker for its module path. -/
def declaration? : Item → Option Namespace
  | .space n => some n
  | .legacy m => some ⟨m.modulePath, m.namespaceName⟩
  | _ => none

/-- One empty group for each library that declares a name. -/
def create (items : List Item) : Except Group.Fault GroupMap :=
  (items.filterMap declaration?).foldlM register Table.empty

/-- A resolved item with the library whose group it joins. -/
structure Placement where
  library : String
  item : Item
  deriving DecidableEq, Repr

/-- Resolve an item and see whether there is room for it in the group of its library, behind the
items that are to be placed before it. Namespace items are in the groups already. -/
def stageItem (groups : GroupMap) (free : List Ident) (staged : List Placement) (item : Item) :
    Except Group.Fault (List Placement) :=
  if item.isNamespace then .ok staged
  else match groups.get? item.library with
    | none => .error (.unknownLibrary item)
    | some group =>
      match Resolution.resolve groups.names free item with
      | .error fault => .error (.resolution fault)
      | .ok resolved =>
        if resolved ∈ group.items ∨ ⟨item.library, resolved⟩ ∈ staged then
          .error (.duplicate item.library resolved)
        else .ok (staged ++ [⟨item.library, resolved⟩])

def stage (groups : GroupMap) (free : List Ident) (items : List Item) :
    Except Group.Fault (List Placement) :=
  items.foldlM (stageItem groups free) []

def place (groups : GroupMap) (p : Placement) : Except Group.Fault GroupMap :=
  match groups.get? p.library with
  | none => .error (.unknownLibrary p.item)
  | some group => (group.add p.item).map (groups.insert p.library ·)

/-- Place items up to the first one that finds no room, and keep what was placed before it. -/
def placeAll (groups : GroupMap) : List Placement → GroupMap × Except Group.Fault Unit
  | [] => (groups, .ok ())
  | p :: rest =>
    match groups.place p with
    | .error fault => (groups, .error fault)
    | .ok placed => placed.placeAll rest

/-- Assign items to their groups. Every item is resolved and checked before the first one is placed,
so either all of them find their place or none does. -/
def assign (groups : GroupMap) (items : List Item) (free : List Ident) :
    GroupMap × Except Group.Fault Unit :=
  match groups.stage free items with
  | .error fault => (groups, .error fault)
  | .ok staged => groups.placeAll staged

/-- Group the items of a whole artifact. -/
def ofItems (items : List Item) : Except Group.Fault GroupMap :=
  match create items with
  | .error fault => .error fault
  | .ok groups =>
    match groups.assign items (Reachability.freeIdents items false) with
    | (_, .error fault) => .error fault
    | (assigned, .ok ()) => .ok assigned

/-- The groups in the order of their libraries. -/
def sorted (groups : GroupMap) : List (String × Group) :=
  Order.sortBy (Order.on Prod.fst Order.compareText) groups.entries

end GroupMap
end Bindery
