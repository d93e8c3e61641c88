import Bindery.Proofs.Interface.Merge
/-!
# The reference-free set that an interface remembers

A question about handles is answered from the set of reference-free records and enumerations, which
is computed once and remembered until a type is declared. The additions that keep it do not change
it: so whatever was added and asked before, an interface answers as if it remembered nothing.
-/
namespace Bindery.Interface

open Outcome Reachability

variable {i j : Interface} {item : Item}

/-- The same tables, and nothing remembered. -/
def forget (i : Interface) : Interface := { i with free := none }

theorem map_forget_bind {α : Type} (x : Except Fault α) (f : α → Interface) :
    (x >>= fun a => .ok (f a)).map forget = x >>= fun a => .ok (f a).forget := by
  cases x <;> rfl

theorem addItem_forget (i : Interface) (item : Item) :
    i.forget.addItem item = (i.addItem item).map forget := by
  cases item with
  | space n | legacy m => rfl
  | record d | enumeration d | object d | callback d | custom d | function d =>
    simp only [addItem, pure_eq, map_forget_bind]
    rfl
  | constructor d | method d | traitMethod d =>
    simp only [addItem, pure_eq, apply_ite (Except.map forget), map_forget_bind]
    rfl

theorem addItems_forget (i : Interface) (items : List Item) :
    i.forget.addItems items = ((i.addItems items).1.forget, (i.addItems items).2) := by
  induction items generalizing i with
  | nil => rfl
  | cons item rest ih =>
    rw [addItems, addItems, addItem_forget]
    cases i.addItem item with
    | ok added => exact ih added
    | error e => rfl

theorem setNamespace_forget (i : Interface) (name : String) :
    i.forget.setNamespace name = (i.setNamespace name).map forget := by
  have hspace : i.forget.space = i.space := rfl
  unfold setNamespace
  rw [hspace]
  cases i.space with
  | none => rfl
  | some known =>
    simp only
    split <;> rfl

theorem offerDocstring_forget (i : Interface) (docstring : Option String) :
    i.forget.offerDocstring docstring = (i.offerDocstring docstring).forget := by
  simp only [offerDocstring, apply_ite forget]
  rfl

/-- A group is added alike whatever is remembered. -/
theorem addGroup_forget (i : Interface) (g : Group) :
    i.forget.addGroup g = ((i.addGroup g).1.forget, (i.addGroup g).2) := by
  unfold addGroup
  change (if g.library ≠ i.library then _ else _) = _
  split
  · rfl
  · rw [setNamespace_forget]
    cases i.setNamespace g.space.name with
    | error e => rfl
    | ok named =>
      change (named.forget.offerDocstring g.docstring).addItems g.sortedItems = _
      rw [offerDocstring_forget, addItems_forget]

/-- A call ends alike whatever is remembered. -/
theorem call_forget (i : Interface) (c : Call) :
    i.forget.call c = ((i.call c).1.forget, (i.call c).2) := by
  cases c with
  | item item => exact addItems_forget i [item]
  | group g => exact addGroup_forget i g

/-- The items of a state have one definition of each identifier. -/
theorem WellFormed.single (h : i.WellFormed) : Single i.sortedItems := by
  intro a ha b hb id hida hidb
  obtain ⟨kind, hslot⟩ := slot?_of_ident? hida
  obtain ⟨kind', hslot'⟩ := slot?_of_ident? hidb
  exact h.coherent.names a (Item.mem_sorted.1 ha) b (Item.mem_sorted.1 hb) kind kind' id.name
    hslot hslot'

/-- The reference-free set is told from the records and enumerations alone. -/
theorem WellFormed.mem_computeFree_congr (h : i.WellFormed)
    (hitems : ∀ item id, item.ident? = some id → (item ∈ j.items ↔ item ∈ i.items)) (id : Ident) :
    id ∈ j.computeFree ↔ id ∈ i.computeFree := by
  have hsorted : ∀ item id, item.ident? = some id →
      (item ∈ j.sortedItems ↔ item ∈ i.sortedItems) := by
    intro item id hid
    rw [sortedItems, sortedItems, Item.mem_sorted, Item.mem_sorted, hitems item id hid]
  have hget := h.single.get?_congr hsorted
  rw [computeFree, computeFree, Reachability.freeIdents, Reachability.freeIdents,
    mem_freeOf_iff, mem_freeOf_iff]
  exact ⟨Free.congr hget, Free.congr fun id => (hget id).symm⟩

/-- What is remembered, if anything is, are the members of the reference-free set. -/
def UpToDate (i : Interface) : Prop :=
  ∀ free, i.free = some free → ∀ id, id ∈ free ↔ id ∈ i.computeFree

theorem upToDate_of_free (h : i.free = none) : i.UpToDate := by
  intro free hfree
  rw [h] at hfree
  cases hfree

theorem UpToDate.congr (h : i.UpToDate) (hfree : j.free = i.free)
    (hcompute : ∀ id, id ∈ j.computeFree ↔ id ∈ i.computeFree) : j.UpToDate := by
  intro free hj id
  rw [hcompute]
  exact h free (hfree ▸ hj) id

/-- What is remembered up to date is what would be computed. -/
theorem UpToDate.mem_free_iff (h : i.UpToDate) (id : Ident) :
    id ∈ i.freeIdents ↔ id ∈ i.computeFree := by
  unfold Interface.freeIdents
  cases hfree : i.free with
  | none => rw [Option.getD_none]
  | some free => exact h free hfree id

/-- A query keeps the memory up to date. -/
theorem UpToDate.ask (h : i.UpToDate) (ty : Ty) : (i.askHoldsObjects ty).2.UpToDate := by
  rintro free ⟨⟩ id
  exact h.mem_free_iff id

/-- An addition forgets what is remembered, or enters no record and no enumeration. -/
theorem free_of_addItem (h : i.addItem item = .ok j) :
    j.free = none ∨ j.free = i.free ∧ item.ident? = none := by
  cases item with
  | space _ | legacy _ =>
    obtain rfl := Except.ok.inj h
    exact .inr ⟨rfl, rfl⟩
  | record d | enumeration d | object d | callback d | custom d =>
    obtain ⟨table, -, he⟩ := bind_eq_ok.1 h
    obtain rfl := Except.ok.inj he
    exact .inl rfl
  | function d =>
    obtain ⟨table, -, he⟩ := bind_eq_ok.1 h
    obtain rfl := Except.ok.inj he
    exact .inr ⟨rfl, rfl⟩
  | constructor d | method d | traitMethod d =>
    simp only [addItem] at h
    split at h
    · obtain ⟨table, -, he⟩ := bind_eq_ok.1 h
      obtain rfl := Except.ok.inj he
      exact .inr ⟨rfl, rfl⟩
    · cases h

/-- One step: a successful addition. -/
theorem UpToDate.addItem (h : i.UpToDate) (hi : i.WellFormed) (hadd : i.addItem item = .ok j) :
    j.UpToDate := by
  obtain hnone | ⟨hsame, hident⟩ := free_of_addItem hadd
  · exact upToDate_of_free hnone
  · refine h.congr hsame (hi.mem_computeFree_congr fun other id hid => ?_)
    obtain ⟨kind, hslot⟩ := slot?_of_ident? hid
    have hj := (grows_of_addItem hadd).wellFormed hi
    have hne : other ≠ item := by
      rintro rfl
      rw [hident] at hid
      cases hid
    rw [(entersAll_of_addItem hadd).mem_items_iff hj hslot]
    simp [hne]

/-- A run of additions, up to the first one that fails. -/
theorem UpToDate.addItems (h : i.UpToDate) (hi : i.WellFormed) (items : List Item) :
    (i.addItems items).1.UpToDate := by
  induction items generalizing i with
  | nil => exact h
  | cons item rest ih =>
    simp only [Interface.addItems]
    split
    · rename_i added hadded
      exact ih (h.addItem hi hadded) ((grows_of_addItem hadded).wellFormed hi)
    · exact h

/-- What is remembered stays up to date while a group is added, for it is not told from names of
namespaces and docstrings. -/
theorem UpToDate.addGroup (h : i.UpToDate) (hi : i.WellFormed) (g : Group) :
    (i.addGroup g).1.UpToDate := by
  unfold Interface.addGroup
  split
  · exact h
  · split
    · exact h
    · rename_i named hnamed
      have hgrows := (grows_of_setNamespace hnamed).trans (grows_offerDocstring named g.docstring)
      have hsame := offerDocstring_eq_of_setNamespace hnamed g.docstring
      have hitems : ∀ item, item ∈ (named.offerDocstring g.docstring).items ↔ item ∈ i.items := by
        simp only [Interface.mem_items_iff, at?_congr hsame, implies_true]
      have hfree := congrArg Interface.free hsame
      refine UpToDate.addItems ?_ (hgrows.wellFormed hi) _
      exact h.congr hfree (hi.mem_computeFree_congr fun item _ _ => hitems item)

/-- A call keeps the memory up to date, also if it fails. -/
theorem UpToDate.call (h : i.UpToDate) (hi : i.WellFormed) (c : Call) :
    (i.call c).1.UpToDate := by
  cases c with
  | item item => exact h.addItems hi [item]
  | group g => exact h.addGroup hi g

/-- What an interface is used for: an addition, or a question about a type or about an item. -/
inductive Step where
  | add (c : Call)
  | ask (ty : Ty)
  | askItem (item : Item)

/-- How an addition ended, or the answer to a question. There is none about a fact that stands for
no type. -/
inductive Reply where
  | added (outcome : Except Fault Unit)
  | answer (holds : Bool)
  | none
  deriving DecidableEq

def askAbout (i : Interface) (ty : Ty) : Interface × Reply :=
  ((i.askHoldsObjects ty).2, .answer (i.askHoldsObjects ty).1)

/-- Take a step. -/
def step (i : Interface) : Step → Interface × Reply
  | .add c => ((i.call c).1, .added (i.call c).2)
  | .ask ty => i.askAbout ty
  | .askItem item =>
    match itemTy? item with
    | some ty => i.askAbout ty
    | none => (i, .none)

/-- The state behind a sequence of steps, of which any may fail. -/
def run (i : Interface) (steps : List Step) : Interface := steps.foldl (fun i s => (i.step s).1) i

/-- The additions among some steps. -/
def additions (steps : List Step) : List Call :=
  steps.filterMap fun
    | .add c => some c
    | _ => none

theorem askAbout_forget (i : Interface) (ty : Ty) : (i.askAbout ty).1.forget = i.forget := rfl

theorem step_askItem_forget (i : Interface) (item : Item) :
    (i.step (.askItem item)).1.forget = i.forget := by
  simp only [step]
  split
  · exact askAbout_forget i _
  · rfl

/-- A step does to the tables what its addition does, if it is one. -/
theorem step_forget (i : Interface) (s : Step) :
    (i.step s).1.forget = i.forget.after (additions [s]) := by
  cases s with
  | add c => exact (congrArg Prod.fst (call_forget i c)).symm
  | ask ty => rfl
  | askItem item => exact step_askItem_forget i item

theorem WellFormed.of_forget (h : i.forget.WellFormed) : i.WellFormed where
  keyed := h.keyed
  oneKind := h.oneKind
  owned := h.owned

theorem WellFormed.step (h : i.WellFormed) (s : Step) : (i.step s).1.WellFormed := by
  refine WellFormed.of_forget ?_
  rw [step_forget]
  exact (grows_after i.forget _).wellFormed ⟨h.keyed, h.oneKind, h.owned⟩

theorem UpToDate.step (h : i.UpToDate) (hi : i.WellFormed) (s : Step) :
    (i.step s).1.UpToDate := by
  cases s with
  | add c => exact h.call hi c
  | ask ty => exact h.ask ty
  | askItem item =>
    simp only [Interface.step]
    split
    · rename_i ty _
      exact h.ask ty
    · exact h

theorem upToDate_of_run (hi : i.WellFormed) (h : i.UpToDate) (steps : List Step) :
    (i.run steps).WellFormed ∧ (i.run steps).UpToDate := by
  induction steps generalizing i with
  | nil => exact ⟨hi, h⟩
  | cons s steps ih => exact ih (hi.step s) (h.step hi s)

theorem wellFormed_run (library : String) (steps : List Step) :
    ((empty library).run steps).WellFormed :=
  (upToDate_of_run (wellFormed_empty library) (upToDate_of_free rfl) steps).1

/-- After every run the memory is up to date. -/
theorem upToDate_run (library : String) (steps : List Step) :
    ((empty library).run steps).UpToDate :=
  (upToDate_of_run (wellFormed_empty library) (upToDate_of_free rfl) steps).2

end Bindery.Interface
