import Bindery.Item.Order
import Bindery.Proofs.Order
import Bindery.Proofs.Ty.Term
/-!
# Terms of items can be told apart

Equal terms are terms of equal items, so the canonical order tells all items apart and a sorted
list of items does not depend on the order in which they came.
-/
namespace Bindery

open Term

theorem Text.comma_not_mem_ofInt (n : Int) : ',' ∉ Text.ofInt n := by
  have hdigits : ∀ m, ',' ∉ Text.ofNat m :=
    fun m h => absurd (Text.isDigit_of_mem_ofNat h) (by decide)
  cases n with
  | ofNat m => exact hdigits m
  | negSucc m => simp [Text.ofInt, hdigits]

/-- An integer ends where the comma behind it stands. -/
theorem Term.moreArguments_int_inj {key key' : String} {a b : Int} {value value' : List Char}
    {fields fields' : List (String × List Char)} {rest rest' : List Char}
    (h : moreArguments ((key, Text.ofInt a) :: (key', value) :: fields) ++ rest =
      moreArguments ((key, Text.ofInt b) :: (key', value') :: fields') ++ rest') :
    a = b ∧ moreArguments ((key', value) :: fields) ++ rest =
      moreArguments ((key', value') :: fields') ++ rest' := by
  simp only [moreArguments, arguments_cons, List.cons_append, List.append_assoc, List.cons.injEq,
    true_and] at h
  obtain ⟨hint, hmore⟩ := word_inj (Text.comma_not_mem_ofInt a) (Text.comma_not_mem_ofInt b)
    (List.cons.inj (List.append_cancel_left h)).2
  refine ⟨Text.ofInt_injective hint, ?_⟩
  simp only [moreArguments, arguments_cons, List.cons_append, List.append_assoc]
  rw [hmore]

theorem prefixFree_docstring : PrefixFree (orNone text) :=
  prefixFree_orNone prefixFree_text startsTerm_text

/-- The term of a parameter says where it ends. -/
theorem Param.prefixFree_term : PrefixFree Param.term := by
  intro a b rest rest' h
  obtain ⟨-, h⟩ := call_inj (by simp) (by simp) h
  obtain ⟨hname, h₁⟩ := arguments_inj (prefixFree_text _ _) h
  obtain ⟨hty, h₂⟩ := moreArguments_inj (Ty.prefixFree_term _ _) h₁
  refine ⟨?_, arguments_end h₂⟩
  obtain ⟨_, _⟩ := a
  obtain ⟨_, _⟩ := b
  simp_all

theorem Param.startsTerm_term : StartsTerm Param.term :=
  fun _ => ⟨_, _, rfl, by decide⟩

/-- The term of a field says where it ends. -/
theorem Field.prefixFree_term : PrefixFree Field.term := by
  intro a b rest rest' h
  obtain ⟨-, h⟩ := call_inj (by simp) (by simp) h
  obtain ⟨hname, h₁⟩ := arguments_inj (prefixFree_text _ _) h
  obtain ⟨hty, h₂⟩ := moreArguments_inj (Ty.prefixFree_term _ _) h₁
  obtain ⟨hdefault, h₃⟩ := moreArguments_inj (prefixFree_docstring _ _) h₂
  obtain ⟨hdoc, h₄⟩ := moreArguments_inj (prefixFree_docstring _ _) h₃
  refine ⟨?_, arguments_end h₄⟩
  obtain ⟨_, _, _, _⟩ := a
  obtain ⟨_, _, _, _⟩ := b
  simp_all

theorem Field.startsTerm_term : StartsTerm Field.term :=
  fun _ => ⟨_, _, rfl, by decide⟩

/-- The term of a variant says where it ends. -/
theorem Variant.prefixFree_term : PrefixFree Variant.term := by
  intro a b rest rest' h
  obtain ⟨-, h⟩ := call_inj (by simp) (by simp) h
  obtain ⟨hname, h₁⟩ := arguments_inj (prefixFree_text _ _) h
  obtain ⟨hfields, h₂⟩ := moreArguments_inj
    (prefixFree_tuple Field.prefixFree_term Field.startsTerm_term _ _) h₁
  obtain ⟨hdoc, h₃⟩ := moreArguments_inj (prefixFree_docstring _ _) h₂
  refine ⟨?_, arguments_end h₃⟩
  obtain ⟨_, _, _⟩ := a
  obtain ⟨_, _, _⟩ := b
  simp_all

theorem Variant.startsTerm_term : StartsTerm Variant.term :=
  fun _ => ⟨_, _, rfl, by decide⟩

theorem prefixFree_params : PrefixFree fun inputs : List Param => tuple (inputs.map Param.term) :=
  prefixFree_tuple Param.prefixFree_term Param.startsTerm_term

theorem prefixFree_ty? : PrefixFree (orNone Ty.term) :=
  prefixFree_orNone Ty.prefixFree_term Ty.startsTerm_term

namespace Item

theorem not_mem_constructorName (item : Item) : '(' ∉ item.constructorName.toList := by
  cases item <;> simp [constructorName]

/-- Two items with one term have one constructor and agree in all its arguments. -/
theorem call_term_inj {a b : Item} (h : a.term = b.term) :
    a.constructorName = b.constructorName ∧
      arguments a.termArguments ++ [')'] = arguments b.termArguments ++ [')'] := by
  refine call_inj a.not_mem_constructorName b.not_mem_constructorName ?_
  rw [List.append_nil, List.append_nil]
  exact h

theorem prefixFree_fields : PrefixFree fun fields : List Field => tuple (fields.map Field.term) :=
  prefixFree_tuple Field.prefixFree_term Field.startsTerm_term

theorem prefixFree_variants :
    PrefixFree fun variants : List Variant => tuple (variants.map Variant.term) :=
  prefixFree_tuple Variant.prefixFree_term Variant.startsTerm_term

/-- Items are told apart by their terms. -/
theorem term_injective : Function.Injective term := by
  intro a b hterm
  obtain ⟨hname, h⟩ := call_term_inj hterm
  cases a with
  | space n =>
    cases b <;> simp only [constructorName, String.reduceEq] at hname
    obtain ⟨e₁, h₁⟩ := arguments_inj (prefixFree_text _ _) h
    have e₂ := (moreArguments_inj (prefixFree_text _ _) h₁).1
    rename_i other
    cases n
    cases other
    simp_all
  | legacy m =>
    cases b <;> simp only [constructorName, String.reduceEq] at hname
    obtain ⟨e₁, h₁⟩ := arguments_inj (prefixFree_text _ _) h
    obtain ⟨e₂, h₂⟩ := moreArguments_inj (prefixFree_text _ _) h₁
    have e₃ := (moreArguments_inj (prefixFree_text _ _) h₂).1
    rename_i other
    cases m
    cases other
    simp_all
  | custom c =>
    cases b <;> simp only [constructorName, String.reduceEq] at hname
    obtain ⟨e₁, h₁⟩ := arguments_inj (prefixFree_text _ _) h
    obtain ⟨e₂, h₂⟩ := moreArguments_inj (prefixFree_text _ _) h₁
    obtain ⟨e₃, h₃⟩ := moreArguments_inj (Ty.prefixFree_term _ _) h₂
    have e₄ := (moreArguments_inj (prefixFree_docstring _ _) h₃).1
    rename_i other
    cases c
    cases other
    simp_all
  | record r =>
    cases b <;> simp only [constructorName, String.reduceEq] at hname
    obtain ⟨e₁, h₁⟩ := arguments_inj (prefixFree_text _ _) h
    obtain ⟨e₂, h₂⟩ := moreArguments_inj (prefixFree_text _ _) h₁
    obtain ⟨e₃, h₃⟩ := moreArguments_inj (prefixFree_fields _ _) h₂
    have e₄ := (moreArguments_inj (prefixFree_docstring _ _) h₃).1
    rename_i other
    cases r
    cases other
    simp_all
  | enumeration e =>
    cases b <;> simp only [constructorName, String.reduceEq] at hname
    obtain ⟨e₁, h₁⟩ := arguments_inj (prefixFree_text _ _) h
    obtain ⟨e₂, h₂⟩ := moreArguments_inj (prefixFree_text _ _) h₁
    obtain ⟨e₃, h₃⟩ := moreArguments_inj (prefixFree_variants _ _) h₂
    obtain ⟨e₄, h₄⟩ := moreArguments_inj (prefixFree_flag _ _) h₃
    have e₅ := (moreArguments_inj (prefixFree_docstring _ _) h₄).1
    rename_i other
    cases e
    cases other
    simp_all
  | object o =>
    cases b <;> simp only [constructorName, String.reduceEq] at hname
    obtain ⟨e₁, h₁⟩ := arguments_inj (prefixFree_text _ _) h
    obtain ⟨e₂, h₂⟩ := moreArguments_inj (prefixFree_text _ _) h₁
    obtain ⟨e₃, h₃⟩ := moreArguments_inj (prefixFree_flag _ _) h₂
    have e₄ := (moreArguments_inj (prefixFree_docstring _ _) h₃).1
    rename_i other
    cases o
    cases other
    simp_all
  | callback c =>
    cases b <;> simp only [constructorName, String.reduceEq] at hname
    obtain ⟨e₁, h₁⟩ := arguments_inj (prefixFree_text _ _) h
    obtain ⟨e₂, h₂⟩ := moreArguments_inj (prefixFree_text _ _) h₁
    have e₃ := (moreArguments_inj (prefixFree_docstring _ _) h₂).1
    rename_i other
    cases c
    cases other
    simp_all
  | constructor c =>
    cases b <;> simp only [constructorName, String.reduceEq] at hname
    obtain ⟨e₁, h₁⟩ := arguments_inj (prefixFree_text _ _) h
    obtain ⟨e₂, h₂⟩ := moreArguments_inj (prefixFree_text _ _) h₁
    obtain ⟨e₃, h₃⟩ := moreArguments_inj (prefixFree_text _ _) h₂
    obtain ⟨e₄, h₄⟩ := moreArguments_inj (prefixFree_params _ _) h₃
    obtain ⟨e₅, h₅⟩ := moreArguments_inj (prefixFree_ty? _ _) h₄
    obtain ⟨e₆, h₆⟩ := moreArguments_inj (prefixFree_ty? _ _) h₅
    have e₇ := (moreArguments_inj (prefixFree_docstring _ _) h₆).1
    rename_i other
    cases c
    cases other
    simp_all
  | method m =>
    cases b <;> simp only [constructorName, String.reduceEq] at hname
    obtain ⟨e₁, h₁⟩ := arguments_inj (prefixFree_text _ _) h
    obtain ⟨e₂, h₂⟩ := moreArguments_inj (prefixFree_text _ _) h₁
    obtain ⟨e₃, h₃⟩ := moreArguments_inj (prefixFree_text _ _) h₂
    obtain ⟨e₄, h₄⟩ := moreArguments_inj (prefixFree_params _ _) h₃
    obtain ⟨e₅, h₅⟩ := moreArguments_inj (prefixFree_ty? _ _) h₄
    obtain ⟨e₆, h₆⟩ := moreArguments_inj (prefixFree_ty? _ _) h₅
    obtain ⟨e₇, h₇⟩ := moreArguments_inj (prefixFree_flag _ _) h₆
    have e₈ := (moreArguments_inj (prefixFree_docstring _ _) h₇).1
    rename_i other
    cases m
    cases other
    simp_all
  | traitMethod m =>
    cases b <;> simp only [constructorName, String.reduceEq] at hname
    obtain ⟨e₁, h₁⟩ := arguments_inj (prefixFree_text _ _) h
    obtain ⟨e₂, h₂⟩ := moreArguments_inj (prefixFree_text _ _) h₁
    obtain ⟨e₃, h₃⟩ := moreArguments_int_inj h₂
    obtain ⟨e₄, h₄⟩ := moreArguments_inj (prefixFree_text _ _) h₃
    obtain ⟨e₅, h₅⟩ := moreArguments_inj (prefixFree_params _ _) h₄
    obtain ⟨e₆, h₆⟩ := moreArguments_inj (prefixFree_ty? _ _) h₅
    obtain ⟨e₇, h₇⟩ := moreArguments_inj (prefixFree_ty? _ _) h₆
    obtain ⟨e₈, h₈⟩ := moreArguments_inj (prefixFree_flag _ _) h₇
    have e₉ := (moreArguments_inj (prefixFree_docstring _ _) h₈).1
    rename_i other
    cases m
    cases other
    simp_all
  | function f =>
    cases b <;> simp only [constructorName, String.reduceEq] at hname
    obtain ⟨e₁, h₁⟩ := arguments_inj (prefixFree_text _ _) h
    obtain ⟨e₂, h₂⟩ := moreArguments_inj (prefixFree_text _ _) h₁
    obtain ⟨e₃, h₃⟩ := moreArguments_inj (prefixFree_params _ _) h₂
    obtain ⟨e₄, h₄⟩ := moreArguments_inj (prefixFree_ty? _ _) h₃
    obtain ⟨e₅, h₅⟩ := moreArguments_inj (prefixFree_ty? _ _) h₄
    obtain ⟨e₆, h₆⟩ := moreArguments_inj (prefixFree_flag _ _) h₅
    have e₇ := (moreArguments_inj (prefixFree_docstring _ _) h₆).1
    rename_i other
    cases f
    cases other
    simp_all

/-- Items are told apart by their keys, because a key holds the whole term. -/
theorem sortKey_injective : Function.Injective sortKey := by
  intro a b h
  exact term_injective (congrArg SortKey.term h)

instance : Std.TransCmp SortKey.compare := by
  unfold SortKey.compare
  infer_instance

instance : Std.LawfulEqCmp SortKey.compare where
  compare_self := (inferInstance : Std.ReflCmp SortKey.compare).compare_self
  eq_of_compare {a b} h := by
    simp only [SortKey.compare, Order.both_eq_eq, Order.on] at h
    obtain ⟨hrank, hpath, hname, hterm⟩ := h
    have hrank := Order.eq_of_compareNat hrank
    have hpath := Order.eq_of_compareText hpath
    have hname := Order.eq_of_compareText hname
    have hterm := Order.eq_of_compareChars hterm
    cases a
    cases b
    simp_all

theorem perm_sorted (items : List Item) : (sorted items).Perm items := Order.perm_sortOn _ _ items

theorem mem_sorted {item : Item} {items : List Item} : item ∈ sorted items ↔ item ∈ items :=
  (perm_sorted items).mem_iff

/-- The canonical order does not depend on the order before. -/
theorem sorted_eq_of_perm {items items' : List Item} (h : items.Perm items') :
    sorted items = sorted items' :=
  Order.sortOn_eq_of_perm h fun _ _ _ _ hkey => sortKey_injective hkey

theorem pairwise_sorted (items : List Item) :
    (sorted items).Pairwise fun a b => (SortKey.compare a.sortKey b.sortKey).isLE :=
  Order.pairwise_sortOn _ _ items

/-- In canonical order items stand by rank. -/
theorem pairwise_rank_sorted (items : List Item) :
    (sorted items).Pairwise fun a b => a.rank ≤ b.rank := by
  refine (pairwise_sorted items).imp fun {a b} hab => ?_
  by_contra hrank
  have hne : ¬ a.rank < b.rank := by omega
  have hgt : b.rank < a.rank := by omega
  simp [SortKey.compare, Order.both, Order.on, Order.compareNat, sortKey, hne, hgt] at hab

/-- Distinct items in canonical order have increasing keys. -/
theorem pairwise_lt_sorted {items : List Item} (h : items.Nodup) :
    (sorted items).Pairwise fun a b => SortKey.compare a.sortKey b.sortKey = .lt := by
  have hnodup := (perm_sorted items).nodup_iff.2 h
  refine ((pairwise_sorted items).and hnodup).imp fun {a b} hab => ?_
  obtain ⟨hle, hne⟩ := hab
  cases hcompare : SortKey.compare a.sortKey b.sortKey with
  | lt => rfl
  | eq => exact absurd (sortKey_injective (Std.LawfulEqCmp.eq_of_compare hcompare)) hne
  | gt => simp [hcompare] at hle

end Item
end Bindery
