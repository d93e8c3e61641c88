import Bindery.Item.Basic
import Bindery.Table
/-!
# Reachable object handles

Whether a value of a record or an enumeration can hold an object handle. The walk follows the types
of fields through the known records and enumerations. It remembers only negative answers, and an
identifier that is met again while it is being walked counts as holding a handle, so every type on
a cycle does and every walk ends. A walk goes as deep as the known identifiers lead it: the limit
that a machine sets on calls inside calls is no part of it.
-/
namespace Bindery

/-- What a type occurrence in a field leads to: a handle, or a declared type. A reference to
another library carries the flag that was stamped on it. -/
inductive Link where
  | handle
  | target (id : Ident) (stamp : Option Bool)
  deriving DecidableEq, Repr

def Ty.link? : Ty → Option Link
  | object _ _ => some .handle
  | record path name | enumeration path name => some (.target ⟨path, name⟩ none)
  | external e => some (.target e.ident (some e.holdsObjects))
  | _ => none

def Item.links (item : Item) : List Link :=
  (item.fieldTypes.flatMap Ty.occurrences).filterMap Ty.link?

namespace Reachability

/-- The known records and enumerations with what their fields lead to. -/
abbrev Universe := Table Ident (List Link)

/-- Of several items with one identifier the last one counts. -/
def Universe.ofItems (items : List Item) : Universe :=
  Table.ofList (items.filterMap fun item => item.ident?.map fun id => (id, item.links))

/-- An answer, and the identifiers known to be free of handles after it. -/
structure Answer where
  holds : Bool
  free : List Ident
  deriving DecidableEq, Repr

/-- Whether the stamp of a link decides: stamps are trusted and the target is unknown. -/
def decidedBy (known : Universe) (trust : Bool) (id : Ident) (stamp : Option Bool) : Option Bool :=
  if trust && !known.contains id then stamp else none

/-- Follow links up to the first one that leads to a handle. -/
def follow (known : Universe) (trust : Bool) (visit : List Ident → Ident → Answer) :
    List Ident → List Link → Answer
  | free, [] => ⟨false, free⟩
  | free, .handle :: _ => ⟨true, free⟩
  | free, .target id stamp :: rest =>
    match decidedBy known trust id stamp with
    | some true => ⟨true, free⟩
    | some false => follow known trust visit free rest
    | none =>
      let answer := visit free id
      if answer.holds then answer else follow known trust visit answer.free rest

/-- Walk an identifier while those in `pending` are being walked. The fuel bounds how many more
identifiers can be pending at once. -/
def visit (known : Universe) (trust : Bool) :
    (fuel : Nat) → (pending free : List Ident) → Ident → Answer
  | fuel, pending, free, id =>
    if id ∈ free then ⟨false, free⟩
    else match known.get? id with
      | none => ⟨true, free⟩
      | some links =>
        if id ∈ pending then ⟨true, free⟩
        else match fuel with
          | 0 => ⟨true, free⟩
          | fuel + 1 =>
            let answer := follow known trust (visit known trust fuel (id :: pending)) free links
            if answer.holds then answer else ⟨false, answer.free ++ [id]⟩

/-- A query from the top: no more identifiers can be pending at once than are known. -/
def query (known : Universe) (trust : Bool) (free : List Ident) (id : Ident) : Answer :=
  visit known trust known.keys.length [] free id

/-- The known identifiers that are free of handles. -/
def freeOf (known : Universe) (trust : Bool) : List Ident :=
  known.keys.foldl (fun free id => (query known trust free id).free) []

/-- The records and enumerations among the items that can hold no handle. -/
def freeIdents (items : List Item) (trust : Bool) : List Ident :=
  freeOf (Universe.ofItems items) trust

end Reachability
end Bindery
