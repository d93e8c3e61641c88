import Bindery.Proofs.Reachability.Fields
import Mathlib.Order.Bounds.Basic
/-!
# Queries that share a memory

What a query remembers is given to the next one. The answers are still told from the items alone:
there is a least set with what was remembered at first and with every known item that meets only
members of the set, and each query says "free" exactly on it, whatever was asked before.
-/
namespace Bindery.Reachability

variable {items : Table Ident Item} {trust : Bool} {memory : List Ident} {free : Set Ident}
  {item : Item}

/-- No handle stands in the fields of an item, and every type that is referred to there is a member
of the set. Where stamps are trusted, a reference to an unknown type of another library counts by
its stamp instead. -/
structure MeetsOnly (items : Table Ident Item) (trust : Bool) (free : Set Ident) (item : Item) :
    Prop where
  handle : ∀ path name, ¬ item.Mentions (.object path name)
  record : ∀ path name, item.Mentions (.record path name) → ⟨path, name⟩ ∈ free
  enumeration : ∀ path name, item.Mentions (.enumeration path name) → ⟨path, name⟩ ∈ free
  external : ∀ e, item.Mentions (.external e) →
    if trust ∧ e.ident ∉ items.keys then e.holdsObjects = false else e.ident ∈ free

/-- A set with what is remembered and with every known item that meets only members. -/
structure Closed (items : Table Ident Item) (trust : Bool) (memory : List Ident)
    (free : Set Ident) : Prop where
  memory : ∀ id ∈ memory, id ∈ free
  item : ∀ id item, items.get? id = some item → MeetsOnly items trust free item → id ∈ free

/-- The known items with what their fields lead to. -/
def Universe.ofTable (items : Table Ident Item) : Universe := items.map Item.links

/-- What is known of a table of items is the links of each. -/
theorem get?_ofTable (items : Table Ident Item) (id : Ident) :
    (Universe.ofTable items).get? id = (items.get? id).map Item.links :=
  Table.get?_map Item.links items id

theorem decidedBy_ofTable (items : Table Ident Item) (trust : Bool) (id : Ident)
    (stamp : Option Bool) :
    decidedBy (Universe.ofTable items) trust id stamp =
      if trust ∧ id ∉ items.keys then stamp else none := by
  simp [decidedBy, Universe.ofTable, Table.contains]

/-- What an item meets can be told from its links. -/
theorem meetsOnly_iff :
    MeetsOnly items trust free item ↔
      .handle ∉ item.links ∧
      (∀ target stamp, .target target stamp ∈ item.links →
        decidedBy (Universe.ofTable items) trust target stamp ≠ some true) ∧
      ∀ target stamp, .target target stamp ∈ item.links →
        decidedBy (Universe.ofTable items) trust target stamp = none → target ∈ free := by
  simp only [decidedBy_ofTable]
  constructor
  · intro h
    refine ⟨fun hhandle => ?_, fun target stamp hlink hd => ?_, fun target stamp hlink hd => ?_⟩
    · obtain ⟨path, name, ht⟩ := (handle_mem_links_iff item).1 hhandle
      exact h.handle path name ht
    · split at hd
      · rename_i hunknown
        subst hd
        obtain ⟨e, ht, rfl, hflag⟩ := flagged_mem_links hlink
        have hexternal := h.external e ht
        rw [if_pos hunknown, hflag] at hexternal
        cases hexternal
      · cases hd
    · obtain ⟨t, ht, hlink⟩ := (item.mem_links_iff _).1 hlink
      cases t with
      | record path name =>
        obtain ⟨rfl, rfl⟩ := Link.target.inj (Option.some.inj hlink)
        exact h.record path name ht
      | enumeration path name =>
        obtain ⟨rfl, rfl⟩ := Link.target.inj (Option.some.inj hlink)
        exact h.enumeration path name ht
      | external e =>
        obtain ⟨rfl, rfl⟩ := Link.target.inj (Option.some.inj hlink)
        have hexternal := h.external e ht
        split at hd
        · cases hd
        · rename_i hknown
          rwa [if_neg hknown] at hexternal
      | object => cases hlink
      | _ => cases hlink
  · rintro ⟨hhandle, hflag, htarget⟩
    constructor
    · intro path name ht
      exact hhandle ((handle_mem_links_iff item).2 ⟨path, name, ht⟩)
    · intro path name ht
      exact htarget _ none ((item.mem_links_iff _).2 ⟨_, ht, rfl⟩) (by simp)
    · intro path name ht
      exact htarget _ none ((item.mem_links_iff _).2 ⟨_, ht, rfl⟩) (by simp)
    · intro e ht
      have hlink := (item.mem_links_iff (.target e.ident (some e.holdsObjects))).2 ⟨_, ht, rfl⟩
      split
      · rename_i hunknown
        simpa [hunknown] using hflag _ _ hlink
      · rename_i hknown
        exact htarget _ _ hlink (if_neg hknown)

/-- The free identifiers are the least set that is closed. -/
theorem isLeast_free (items : Table Ident Item) (trust : Bool) (memory : List Ident) :
    IsLeast {free | Closed items trust memory free}
      {id | Free (Universe.ofTable items) trust memory id} := by
  constructor
  · constructor
    · exact fun id hid => .base hid
    · intro id item hget hmeets
      obtain ⟨hhandle, hflag, htarget⟩ := meetsOnly_iff.1 hmeets
      exact .known (by rw [get?_ofTable, hget]; rfl) hhandle hflag htarget
  · intro free hclosed id hid
    induction hid with
    | base hid => exact hclosed.memory _ hid
    | known hget hhandle hflag _ ih =>
      rw [get?_ofTable] at hget
      obtain ⟨item, hitem, rfl⟩ := Option.map_eq_some_iff.1 hget
      exact hclosed.item _ item hitem (meetsOnly_iff.2 ⟨hhandle, hflag, ih⟩)

/-- What is remembered after some queries. -/
def remembered (items : Table Ident Item) (trust : Bool) (memory asked : List Ident) : List Ident :=
  asked.foldl (fun free id => (query (Universe.ofTable items) trust free id).free) memory

/-- For every memory to start from, sound or not, the least closed set decides each query, by a walk
that nothing cuts off: the answer is "free" exactly on the set, no matter what was asked before, and
what is remembered grows with each query and stays inside the set. -/
theorem queries_answer_least_closed (items : Table Ident Item) (trust : Bool)
    (memory : List Ident) :
    ∃ least : Set Ident, IsLeast {free | Closed items trust memory free} least ∧
      ∀ (asked : List Ident) (id : Ident),
        let before := remembered items trust memory asked
        let answer := query (Universe.ofTable items) trust before id
        Runs (Universe.ofTable items) trust [] before (.visit id) answer ∧
          (answer.holds = false ↔ id ∈ least) ∧
          before ⊆ answer.free ∧ ∀ x ∈ answer.free, x ∈ least := by
  refine ⟨_, isLeast_free items trust memory, fun asked id => ?_⟩
  have hfree : ∀ x ∈ memory, Free (Universe.ofTable items) trust memory x := fun x hx => .base hx
  obtain ⟨hsub, hall, -⟩ := queries_spec asked (List.Subset.refl memory) hfree
  exact ⟨runs_query _ id, query_spec hsub hall id⟩

end Bindery.Reachability
