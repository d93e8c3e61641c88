import Bindery.Item.Term
import Bindery.Order
/-!
# The canonical order of items

Items are ordered by kind, module path and name; items that agree in these are ordered by their
terms.
-/
namespace Bindery.Item

structure SortKey where
  rank : Nat
  modulePath : String
  name : String
  term : List Char
  deriving DecidableEq, Repr

def sortKey (item : Item) : SortKey := ⟨item.rank, item.modulePath, item.name, item.term⟩

def SortKey.compare : SortKey → SortKey → Ordering :=
  Order.both (Order.on SortKey.rank Order.compareNat)
    (Order.both (Order.on SortKey.modulePath Order.compareText)
      (Order.both (Order.on SortKey.name Order.compareText)
        (Order.on SortKey.term Order.compareChars)))

/-- Items in canonical order. -/
def sorted (items : List Item) : List Item := Order.sortOn sortKey SortKey.compare items

end Bindery.Item
