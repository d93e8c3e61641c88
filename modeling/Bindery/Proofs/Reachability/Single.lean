import Bindery.Proofs.Reachability.Fields
/-!
# One definition for each identifier

Where no identifier has two definitions, the order of the items does not matter to a walk.
-/
namespace Bindery.Reachability

/-- All definitions of an identifier are equal. -/
def Single (items : List Item) : Prop :=
  ∀ a ∈ items, ∀ b ∈ items, ∀ id, a.ident? = some id → b.ident? = some id → a = b

variable {items items' : List Item} {trust : Bool}

/-- Where identifiers are defined once, an item declares its own. -/
theorem Single.declares_iff (h : Single items) {id : Ident} {item : Item} :
    Declares items id item ↔ item ∈ items ∧ item.ident? = some id := by
  constructor
  · exact Declares.mem
  · rintro ⟨hmem, hid⟩
    obtain ⟨last, hlast⟩ := (exists_declares_iff items id).2 ⟨item, hmem, hid⟩
    obtain ⟨hmem', hid'⟩ := hlast.mem
    rwa [h item hmem last hmem' id hid hid']

theorem Single.get?_eq_some (h : Single items) {id : Ident} {item : Item} (hmem : item ∈ items)
    (hid : item.ident? = some id) : (Universe.ofItems items).get? id = some item.links :=
  (get?_ofItems ..).2 ⟨item, h.declares_iff.2 ⟨hmem, hid⟩, rfl⟩

theorem Single.exists_of_get? (h : Single items) {id : Ident} {links : List Link}
    (hget : (Universe.ofItems items).get? id = some links) :
    ∃ item ∈ items, item.ident? = some id ∧ item.links = links := by
  obtain ⟨item, hitem, hlinks⟩ := (get?_ofItems ..).1 hget
  obtain ⟨hmem, hid⟩ := h.declares_iff.1 hitem
  exact ⟨item, hmem, hid, hlinks⟩

/-- Items with the same records and enumerations know the same. -/
theorem Single.get?_congr (h : Single items)
    (hmem : ∀ item id, item.ident? = some id → (item ∈ items' ↔ item ∈ items)) (id : Ident) :
    (Universe.ofItems items').get? id = (Universe.ofItems items).get? id := by
  have h' : Single items' := fun a ha b hb id hida hidb =>
    h a ((hmem a id hida).1 ha) b ((hmem b id hidb).1 hb) id hida hidb
  apply Option.ext
  intro links
  constructor
  · intro hget
    obtain ⟨item, hitem, hid, rfl⟩ := h'.exists_of_get? hget
    exact h.get?_eq_some ((hmem item id hid).1 hitem) hid
  · intro hget
    obtain ⟨item, hitem, hid, rfl⟩ := h.exists_of_get? hget
    exact h'.get?_eq_some ((hmem item id hid).2 hitem) hid

theorem decidedBy_congr {known known' : Universe} (h : ∀ id, known.get? id = known'.get? id) :
    decidedBy known = decidedBy known' := by
  funext trust id stamp
  simp only [decidedBy, Table.contains_eq_isSome, h]

/-- Whether an identifier is free depends on what is known, and on no order. -/
theorem Free.congr {known known' : Universe} (h : ∀ id, known.get? id = known'.get? id)
    {base : List Ident} {id : Ident} (hid : Free known trust base id) :
    Free known' trust base id := by
  induction hid with
  | base hid => exact .base hid
  | known hget hhandle hflag _ ih =>
    rw [h] at hget
    rw [decidedBy_congr h] at hflag ih
    exact .known hget hhandle hflag ih

/-- Where identifiers are defined once, the order of items does not matter to the free ones. -/
theorem Single.mem_freeIdents_perm (h : Single items) (hperm : items.Perm items') (id : Ident) :
    id ∈ freeIdents items trust ↔ id ∈ freeIdents items' trust := by
  have hget := h.get?_congr fun item _ _ => hperm.symm.mem_iff (a := item)
  rw [freeIdents, freeIdents, mem_freeOf_iff, mem_freeOf_iff]
  exact ⟨Free.congr fun id => (hget id).symm, Free.congr hget⟩

end Bindery.Reachability
