import Bindery.Order
import Mathlib.Data.List.Perm.Basic
/-!
# Sorted order

The comparisons are the lexicographic ones of the library, and a sort by a comparison that tells
all entries apart does not depend on the order in which the entries came.
-/
namespace Bindery.Order

theorem compareNat_eq : compareNat = compare := by
  funext m n
  rw [compareNat, Nat.compare_eq_ite_lt]

variable {α κ : Type}

instance : Std.TransCmp compareNat := by
  rw [compareNat_eq]
  infer_instance

theorem eq_of_compareNat {m n : Nat} (h : compareNat m n = .eq) : m = n := by
  rw [compareNat_eq] at h
  exact Nat.compare_eq_eq.1 h

theorem both_eq (first second : α → α → Ordering) :
    both first second = compareLex first second := by
  funext a b
  unfold both compareLex
  cases first a b <;> rfl

instance {cmp : κ → κ → Ordering} [Std.TransCmp cmp] (key : α → κ) : Std.TransCmp (on key cmp) where
  eq_swap {a b} := (inferInstance : Std.OrientedCmp cmp).eq_swap (a := key a) (b := key b)
  isLE_trans := (inferInstance : Std.TransCmp cmp).isLE_trans

theorem compareChars_eq : compareChars = List.compareLex (on Char.toNat compare) := by
  funext s t
  induction s generalizing t with
  | nil => cases t <;> simp [compareChars, List.compareLex]
  | cons c cs ih =>
    cases t with
    | nil => simp [compareChars, List.compareLex]
    | cons d ds =>
      simp only [compareChars, List.compareLex, ih, on, Nat.compare_eq_ite_lt]
      split
      · rfl
      · split <;> rfl

instance : Std.TransCmp compareChars := by
  rw [compareChars_eq]
  infer_instance

instance : Std.TransCmp compareText :=
  inferInstanceAs (Std.TransCmp (on String.toList compareChars))

theorem eq_of_compareText {s t : String} (h : compareText s t = .eq) : s = t :=
  String.toList_inj.1 (eq_of_compareChars h)

instance {first second : α → α → Ordering} [Std.TransCmp first] [Std.TransCmp second] :
    Std.TransCmp (both first second) := by
  rw [both_eq]
  infer_instance

/-- Two orders one after the other find equal what both find equal. -/
theorem both_eq_eq {first second : α → α → Ordering} {a b : α} :
    both first second a b = .eq ↔ first a b = .eq ∧ second a b = .eq := by
  rw [both_eq]
  exact compareLex_eq_eq

variable {cmp : α → α → Ordering}

theorem perm_insertBy (cmp : α → α → Ordering) (x : α) (xs : List α) :
    (insertBy cmp x xs).Perm (x :: xs) := by
  induction xs with
  | nil => exact .refl _
  | cons y ys ih =>
    unfold insertBy
    split
    · exact (ih.cons y).trans (.swap x y ys)
    · exact .refl _

/-- Sorting keeps the entries. -/
theorem perm_sortBy (cmp : α → α → Ordering) (xs : List α) : (sortBy cmp xs).Perm xs := by
  induction xs with
  | nil => exact .refl _
  | cons x xs ih => exact (perm_insertBy cmp x _).trans (ih.cons x)

theorem mem_sortBy {x : α} {xs : List α} : x ∈ sortBy cmp xs ↔ x ∈ xs :=
  (perm_sortBy cmp xs).mem_iff

theorem insertBy_map {β : Type} {cmp' : β → β → Ordering} {f : α → β} {x : α} {xs : List α}
    (h : ∀ y ∈ xs, cmp' (f x) (f y) = cmp x y) :
    insertBy cmp' (f x) (xs.map f) = (insertBy cmp x xs).map f := by
  induction xs with
  | nil => rfl
  | cons y ys ih =>
    obtain ⟨hy, hys⟩ := List.forall_mem_cons.1 h
    simp only [List.map_cons, insertBy, hy, ih hys]
    split <;> rfl

/-- A change that the comparison of the entries does not see may be made before or after the
sort. -/
theorem sortBy_map_of_mem {β : Type} {cmp' : β → β → Ordering} {f : α → β} {xs : List α}
    (h : ∀ a ∈ xs, ∀ b ∈ xs, cmp' (f a) (f b) = cmp a b) :
    sortBy cmp' (xs.map f) = (sortBy cmp xs).map f := by
  induction xs with
  | nil => rfl
  | cons x xs ih =>
    have hxs := ih fun a ha b hb => h a (List.mem_cons_of_mem x ha) b (List.mem_cons_of_mem x hb)
    rw [List.map_cons, sortBy, hxs, sortBy]
    exact insertBy_map fun y hy =>
      h x List.mem_cons_self y (List.mem_cons_of_mem x (mem_sortBy.1 hy))

/-- Entries can be renamed before sorting or behind it, if the order is the same. -/
theorem sortBy_map {β : Type} {cmp' : β → β → Ordering} {f : α → β}
    (h : ∀ a b, cmp' (f a) (f b) = cmp a b) (xs : List α) :
    sortBy cmp' (xs.map f) = (sortBy cmp xs).map f :=
  sortBy_map_of_mem fun a _ b _ => h a b

variable [Std.TransCmp cmp]

theorem pairwise_insertBy (x : α) {xs : List α} (h : xs.Pairwise fun a b => (cmp a b).isLE) :
    (insertBy cmp x xs).Pairwise fun a b => (cmp a b).isLE := by
  induction xs with
  | nil => simp [insertBy]
  | cons y ys ih =>
    obtain ⟨hy, hys⟩ := List.pairwise_cons.1 h
    unfold insertBy
    split
    · rename_i hxy
      refine List.pairwise_cons.2 ⟨fun z hz => ?_, ih hys⟩
      rcases List.mem_cons.1 ((perm_insertBy cmp x ys).mem_iff.1 hz) with rfl | hz
      · simp [Std.OrientedCmp.lt_of_gt hxy]
      · exact hy z hz
    · rename_i hxy
      have hle : (cmp x y).isLE := by
        cases hc : cmp x y <;> simp_all
      refine List.pairwise_cons.2 ⟨fun z hz => ?_, h⟩
      rcases List.mem_cons.1 hz with rfl | hz
      · exact hle
      · exact Std.TransCmp.isLE_trans hle (hy z hz)

/-- A sorted list is in order. -/
theorem pairwise_sortBy (xs : List α) : (sortBy cmp xs).Pairwise fun a b => (cmp a b).isLE := by
  induction xs with
  | nil => exact .nil
  | cons x xs ih => exact pairwise_insertBy x ih

/-- Entries that the comparison tells apart are sorted into one order, however they came. -/
theorem sortBy_eq_of_perm {xs ys : List α} (h : xs.Perm ys)
    (hinj : ∀ a ∈ xs, ∀ b ∈ xs, cmp a b = .eq → a = b) : sortBy cmp xs = sortBy cmp ys := by
  have hperm : (sortBy cmp xs).Perm (sortBy cmp ys) :=
    (perm_sortBy cmp xs).trans (h.trans (perm_sortBy cmp ys).symm)
  refine hperm.eq_of_pairwise (fun a b ha hb hab hba => ?_) (pairwise_sortBy xs)
    (pairwise_sortBy ys)
  have hb := h.mem_iff.2 (mem_sortBy.1 hb)
  exact hinj a (mem_sortBy.1 ha) b hb (Std.OrientedCmp.isLE_antisymm hab hba)

@[simp] theorem mem_distinct [DecidableEq α] {x : α} {xs : List α} :
    x ∈ distinct xs ↔ x ∈ xs := by
  induction xs with
  | nil => exact Iff.rfl
  | cons y ys ih =>
    rw [distinct, List.mem_cons, List.mem_cons, List.mem_filter, ih]
    by_cases h : x = y <;> simp [h]

omit [Std.TransCmp cmp] in
theorem perm_sortOn (key : α → κ) (cmp : κ → κ → Ordering) (xs : List α) :
    (sortOn key cmp xs).Perm xs := by
  have h := (perm_sortBy (on Prod.fst cmp) (xs.map fun x => (key x, x))).map Prod.snd
  simpa [sortOn, Function.comp_def] using h

/-- Entries with different keys are sorted alike whatever their order was. -/
theorem sortOn_eq_of_perm {key : α → κ} {cmp : κ → κ → Ordering} [Std.TransCmp cmp]
    [Std.LawfulEqCmp cmp] {xs ys : List α} (h : xs.Perm ys)
    (hinj : ∀ a ∈ xs, ∀ b ∈ xs, key a = key b → a = b) :
    sortOn key cmp xs = sortOn key cmp ys := by
  unfold sortOn
  rw [sortBy_eq_of_perm (h.map _)]
  intro a ha b hb hab
  obtain ⟨x, hx, rfl⟩ := List.mem_map.1 ha
  obtain ⟨y, hy, rfl⟩ := List.mem_map.1 hb
  have hkey : key x = key y := (inferInstance : Std.LawfulEqCmp cmp).eq_of_compare hab
  rw [hinj x hx y hy hkey]

theorem pairwise_sortOn (key : α → κ) (cmp : κ → κ → Ordering) [Std.TransCmp cmp] (xs : List α) :
    (sortOn key cmp xs).Pairwise fun a b => (cmp (key a) (key b)).isLE := by
  have hkeys : ∀ entry ∈ sortBy (on Prod.fst cmp) (xs.map fun x => (key x, x)),
      entry.1 = key entry.2 := by
    intro entry hentry
    obtain ⟨x, -, rfl⟩ := List.mem_map.1 (mem_sortBy.1 hentry)
    rfl
  refine List.pairwise_map.2 ((pairwise_sortBy _).imp_of_mem ?_)
  intro a b ha hb hab
  rwa [← hkeys a ha, ← hkeys b hb]

/-- No entry is left twice. -/
theorem nodup_distinct [DecidableEq α] (xs : List α) : (distinct xs).Nodup := by
  induction xs with
  | nil => exact .nil
  | cons x xs ih =>
    refine List.nodup_cons.2 ⟨fun hx => ?_, ih.filter _⟩
    simp at hx

theorem mem_sortTexts_distinct {s : String} {texts : List String} :
    s ∈ sortTexts (distinct texts) ↔ s ∈ texts := by
  rw [sortTexts, mem_sortBy, mem_distinct]

/-- Texts of which each is listed once increase strictly when they are sorted. -/
theorem pairwise_lt_sortTexts_distinct (texts : List String) :
    (sortTexts (distinct texts)).Pairwise fun s t => compareText s t = .lt := by
  have hnodup : (sortTexts (distinct texts)).Nodup :=
    (perm_sortBy compareText _).nodup_iff.2 (nodup_distinct texts)
  refine ((pairwise_sortBy (distinct texts)).and hnodup).imp fun {s t} hst => ?_
  obtain ⟨hle, hne⟩ := hst
  cases hcompare : compareText s t with
  | lt => rfl
  | eq => exact absurd (eq_of_compareText hcompare) hne
  | gt => simp [hcompare] at hle

/-- The sorted texts without repetition depend on which texts there are. -/
theorem sortTexts_distinct_congr {texts texts' : List String}
    (h : ∀ s, s ∈ texts ↔ s ∈ texts') :
    sortTexts (distinct texts) = sortTexts (distinct texts') := by
  have hperm : (distinct texts).Perm (distinct texts') :=
    (List.perm_ext_iff_of_nodup (nodup_distinct texts) (nodup_distinct texts')).2
      fun s => by rw [mem_distinct, mem_distinct, h]
  exact sortBy_eq_of_perm hperm fun _ _ _ _ => eq_of_compareText

end Bindery.Order
