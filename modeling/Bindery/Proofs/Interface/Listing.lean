import Bindery.Proofs.Interface.Merge
import Mathlib.Data.List.Sort
/-!
# Canonical listings

The canonical order is a strict total order on all items. So a set of items has one increasing
listing, and this is what a group and an interface give for their items.
-/
namespace Bindery

namespace Item

/-- The first item comes before the second one in canonical order. -/
def Precedes (a b : Item) : Prop := SortKey.compare a.sortKey b.sortKey = .lt

variable {a b c : Item} {items listing listing' : List Item} {present : Item → Prop}

theorem not_precedes_self (a : Item) : ¬ a.Precedes a := by
  simp [Precedes, Std.ReflCmp.compare_self]

theorem Precedes.trans (hab : a.Precedes b) (hbc : b.Precedes c) : a.Precedes c :=
  Std.TransCmp.lt_trans hab hbc

/-- Of two different items one comes before the other. -/
theorem precedes_or_eq_or_precedes (a b : Item) : a.Precedes b ∨ a = b ∨ b.Precedes a := by
  cases hcompare : SortKey.compare a.sortKey b.sortKey with
  | lt => exact .inl hcompare
  | eq => exact .inr (.inl (sortKey_injective (Std.LawfulEqCmp.eq_of_compare hcompare)))
  | gt => exact .inr (.inr (Std.OrientedCmp.lt_of_gt hcompare))

instance : IsStrictTotalOrder Item Precedes where
  irrefl := not_precedes_self
  trans _ _ _ := Precedes.trans
  trichotomous a b hab hba := by
    obtain h | h | h := precedes_or_eq_or_precedes a b
    · exact absurd h hab
    · exact h
    · exact absurd h hba

/-- The list has the items of a set and no others, each one before all that follow. -/
structure Lists (listing : List Item) (present : Item → Prop) : Prop where
  increasing : listing.Pairwise Precedes
  mem : ∀ item, item ∈ listing ↔ present item

/-- There is one listing of some items. -/
theorem Lists.unique (h : Lists listing present) (h' : Lists listing' present) :
    listing = listing' :=
  h.increasing.eq_of_mem_iff h'.increasing fun item => (h.mem item).trans (h'.mem item).symm

end Item

open Item Interface

end Bindery
